import DataModel.Query.Descriptor
import DataModel.Sql.Literal
import DataModel.Table.Definition

/-!
# Conditions in SQL

A filter as the text after `WHERE`. What has been written so far is put between parentheses before
the next condition joins it, so a list of conditions is read from left to right whatever their
conjunctions. A group without an effective condition writes nothing.
-/

namespace DataModel.Sql

/-- A parameter for a column, cast to the type of the column when it is known. -/
def param (t : TableSchema) (column : String) (value : Value) : Piece :=
  .param value ((t.kind? column).map Kind.cast)

/-- A list operand as its items, any other as the only one. -/
def operands : Value → List Value
  | .list items => items
  | v => [v]

/-- One comparison. -/
def comparison (t : TableSchema) (column : String) (op : Operator) (value : Value) : Statement :=
  let plain : Statement := [.name column, .word (" " ++ op.sql ++ " "), param t column value]
  match op with
  | .isNull | .notNull => [.name column, .word (" " ++ op.sql)]
  | .eq => if value.isNull then [.name column, .word " IS NULL"] else plain
  | .ne => if value.isNull then [.name column, .word " IS NOT NULL"] else plain
  | .like => [.name column, .word ("::text " ++ op.sql ++ " "), .param (.text value.display) none]
  | .isIn =>
    match operands value with
    | [] => [.word "1 = 0"]
    | items =>
      [.name column, .word " IN ("] ++ joined ", " (items.map fun v => [param t column v]) ++ [.word ")"]
  | _ => plain

/-- Join a condition with what has been written so far. -/
def chained (soFar : Option Statement) (conj : Conjunction) (part : Statement) : Statement :=
  match soFar with
  | none => part
  | some before => .word "(" :: (before ++ .word (") " ++ conj.sql ++ " ") :: part)

mutual

/-- A node of a filter. -/
def condition? (t : TableSchema) : Where → Option Statement
  | .leaf _ column op value => some (comparison t column op value)
  | .group _ wheres =>
    match conditions? t none wheres with
    | some inner => some (.word "(" :: (inner ++ [.word ")"]))
    | none => none

/-- A list of nodes, after what has been written so far. -/
def conditions? (t : TableSchema) (soFar : Option Statement) : List Where → Option Statement
  | [] => soFar
  | w :: ws =>
    match condition? t w with
    | some part => conditions? t (some (chained soFar w.method part)) ws
    | none => conditions? t soFar ws

end

/-- The clause that restricts a statement. -/
def whereClause (t : TableSchema) (filter : List Where) : Statement :=
  match conditions? t none filter with
  | some s => .word " WHERE " :: s
  | none => []

end DataModel.Sql

import DataModel.Json
import DataModel.Text.Numeral
import DataModel.Text.Segment

namespace DataModel

/-- A column that failed, with the text of every rule it broke. -/
structure FieldError where
  column : String
  messages : List String
deriving DecidableEq, Repr

/-- The failing columns of a row. -/
abbrev ValidationErrors := List FieldError

namespace ValidationErrors

/-- Add a text to a column: with its other texts when it has some, at the end otherwise. -/
def push (errors : ValidationErrors) (column message : String) : ValidationErrors :=
  match errors with
  | [] => [⟨column, [message]⟩]
  | e :: rest =>
    if e.column = column then ⟨e.column, e.messages ++ [message]⟩ :: rest
    else e :: push rest column message

/-- Add several texts to a column in turn. -/
def pushAll (errors : ValidationErrors) (column : String) (messages : List String) : ValidationErrors :=
  messages.foldl (fun errors m => push errors column m) errors

/-- The failing columns. -/
def columns (errors : ValidationErrors) : List String :=
  errors.map FieldError.column

/-- The same failures of a row among others: its number stands before every column. -/
def atRow (errors : ValidationErrors) (index : Nat) : ValidationErrors :=
  errors.map fun e => { e with column := Numeral.natText index ++ "." ++ e.column }

/-- The failures in one line. -/
def text (errors : ValidationErrors) : String :=
  Segment.join "; " (errors.map fun e => e.column ++ ": " ++ Segment.join ", " e.messages)

/-- The tree of the failures. -/
def toJson (errors : ValidationErrors) : Json :=
  .arr (errors.map fun e => .obj [("column", .str e.column), ("messages", .arr (e.messages.map .str))])

end ValidationErrors

end DataModel

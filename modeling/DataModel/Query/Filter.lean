import DataModel.Query.Descriptor
import DataModel.Text.Like
import DataModel.Value.Order

/-!
# Filters

Whether a row passes a filter. The conditions of a list are joined from left to right, each by its
own conjunction; a group without an effective condition has no verdict and is passed over, and a
filter without a verdict lets every row through.
-/

namespace DataModel

namespace Value

/-- Whether a value is a truth value or a number. -/
def isScalar : Value → Bool
  | bool _ | int _ | float _ => true
  | _ => false

mutual

/-- An operand as it is compared with a text: truth values and numbers as their texts, also within a
list that has some. -/
def asText : Value → Value
  | bool b => text (display (bool b))
  | int n => text (display (int n))
  | float x => text (display (float x))
  | list items => if items.any isScalar then list (asTexts items) else list items
  | v => v

/-- The items of a list as they are compared with a text. -/
def asTexts : List Value → List Value
  | [] => []
  | v :: vs => asText v :: asTexts vs

end

/-- The operand a cell is compared with: next to a text everything is compared as text. -/
def operandFor (cell operand : Value) : Value :=
  match cell with
  | text _ => asText operand
  | _ => operand

/-- Whether a cell is equal to an operand, or to one of its items. -/
def isAmong (cell operand : Value) : Bool :=
  match operand with
  | list items => items.any cell.looseEq
  | v => cell.looseEq v

/-- Whether the text of a cell matches a pattern. -/
def isLike (cell pattern : Value) : Bool :=
  match pattern with
  | text p => Like.isMatch cell.display p
  | _ => false

end Value

namespace Operator

/-- A comparison of a cell that is not null. -/
def compares (op : Operator) (cell operand : Value) : Bool :=
  match op with
  | eq => cell.looseEq operand
  | ne => !cell.looseEq operand
  | gt => cell.order operand = some .gt
  | ge => cell.order operand = some .gt || cell.order operand = some .eq
  | lt => cell.order operand = some .lt
  | le => cell.order operand = some .lt || cell.order operand = some .eq
  | like => cell.isLike operand
  | isIn => cell.isAmong operand
  | isNull => false
  | notNull => true

/-- Whether a comparison holds. A null cell is equal to null and to nothing else, and every other
comparison with it fails. -/
def holds (op : Operator) (cell operand : Value) : Bool :=
  match op with
  | isNull => cell.isNull
  | notNull => !cell.isNull
  | op =>
    if op = eq ∧ operand.isNull then cell.isNull
    else if op = ne ∧ operand.isNull then !cell.isNull
    else !cell.isNull && op.compares cell (Value.operandFor cell operand)

end Operator

namespace Conjunction

/-- Join the verdict so far with the next one. -/
def join (c : Conjunction) (soFar : Option Bool) (next : Bool) : Bool :=
  match soFar, c with
  | none, _ => next
  | some b, and => b && next
  | some b, or => b || next

end Conjunction

namespace Where

mutual

/-- The verdict of a node of a filter on a row. -/
def verdict? (row : Record) : Where → Option Bool
  | leaf _ column op value => some (op.holds (row.cell column) value)
  | group _ wheres => verdicts? row none wheres

/-- The verdict of a list of nodes, after the verdict so far. -/
def verdicts? (row : Record) (soFar : Option Bool) : List Where → Option Bool
  | [] => soFar
  | w :: ws =>
    match verdict? row w with
    | some b => verdicts? row (some (w.method.join soFar b)) ws
    | none => verdicts? row soFar ws

end

end Where

/-- Whether a row passes a filter. -/
def Record.passes (row : Record) (filter : List Where) : Bool :=
  (Where.verdicts? row none filter).getD true

end DataModel

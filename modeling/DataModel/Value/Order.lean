import DataModel.Value.Json

namespace DataModel.Value

/-- The text of a scalar used to match cells across tables. A number without fraction has the text
of the integer, so `1` and `1.0` match. -/
def key : Value → Option String
  | bool true => some "true"
  | bool false => some "false"
  | int n => some (Numeral.int64Text n)
  | float x => some (if x.isIntegral then Numeral.int64Text x.truncated else x.plainText)
  | text s => some s
  | _ => none

/-- The place of a kind of value among the others. -/
def rank : Value → Nat
  | null => 0
  | bool _ => 1
  | int _ => 2
  | float _ => 2
  | text _ => 3
  | list _ => 4
  | map _ => 5

/-- The order of two cells: by rank, and within a rank by value. Two integers are compared exactly,
an integer and a number after rounding; lists and maps do not compare among themselves. -/
def order : Value → Value → Option Ordering
  | int a, int b => some (compare a.toInt b.toInt)
  | bool a, bool b => some (compare a b)
  | text a, text b => some (compare a b)
  | int a, float b => (Binary64.ofInt a.toInt).order b
  | float a, int b => a.order (Binary64.ofInt b.toInt)
  | float a, float b => a.order b
  | null, null => some .eq
  | a, b => if a.rank = b.rank then none else some (compare a.rank b.rank)

/-- Equality as a filter sees it: numbers by value whatever their kind, all else structurally. -/
def looseEq (a b : Value) : Bool :=
  if a.rank = 2 ∧ b.rank = 2 then a.order b = some .eq else a.same b

end DataModel.Value

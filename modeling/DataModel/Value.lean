import DataModel.Assoc
import DataModel.Binary64.Shortest
import DataModel.Binary64.Rounding

namespace DataModel

/-- What a cell may hold. -/
inductive Value where
  | null
  | bool (b : Bool)
  | int (n : Int64)
  | float (x : Binary64)
  | text (s : String)
  | list (items : List Value)
  | map (entries : List (String × Value))
deriving Inhabited, Repr

/-- Column names with values, in order. -/
abbrev Record := Assoc Value

namespace Value

/-- The null value. -/
def isNull : Value → Bool
  | null => true
  | _ => false

/-- The text of a text value. -/
def text? : Value → Option String
  | text s => some s
  | _ => none

/-- The items of a list. -/
def list? : Value → Option (List Value)
  | list items => some items
  | _ => none

/-- The entries of a map. -/
def record? : Value → Option Record
  | map entries => some entries
  | _ => none

/-- The whole number a value stands for: an integer, a number without fraction, or a numeral. -/
def int? : Value → Option Int64
  | int n => some n
  | float x => if x.isIntegral then some x.truncated else none
  | text s => Numeral.int64? s
  | _ => none

/-- The number a value stands for; whole numbers are rounded. -/
def real? : Value → Option Binary64
  | int n => some (Binary64.ofInt n.toInt)
  | float x => some x
  | _ => none

/-- The name of the kind of value. -/
def typeName : Value → String
  | null => "null"
  | bool _ => "boolean"
  | int _ => "integer"
  | float _ => "float"
  | text _ => "string"
  | list _ => "array"
  | map _ => "object"

/-- The value of a natural number: an integer while it fits, a rounded number above. -/
def ofNat (n : Nat) : Value :=
  if n < twoTo 63 then int (Int64.ofNat n) else float (Binary64.ofNat n)

mutual

/-- Structural equality. Numbers of different kinds differ, and numbers are equal by value. -/
def same : Value → Value → Bool
  | null, null => true
  | bool a, bool b => a = b
  | int a, int b => a = b
  | float a, float b => a.equals b
  | text a, text b => a = b
  | list as, list bs => sameItems as bs
  | map as, map bs => as.length = bs.length && sameEntries as bs
  | _, _ => false

/-- Equality of lists, item by item. -/
def sameItems : List Value → List Value → Bool
  | [], [] => true
  | a :: as, b :: bs => same a b && sameItems as bs
  | _, _ => false

/-- Whether every entry is among the others under its key. -/
def sameEntries : List (String × Value) → List (String × Value) → Bool
  | [], _ => true
  | (k, a) :: as, bs =>
    (match Assoc.get? bs k with
    | some b => same a b
    | none => false) && sameEntries as bs

end

end Value

/-- Whether the cell under `column` is null or missing. -/
def Record.isNullAt (r : Record) (column : String) : Bool :=
  match r.get? column with
  | some v => v.isNull
  | none => true

/-- The cell under `column`; null when it is missing. -/
def Record.cell (r : Record) (column : String) : Value :=
  (r.get? column).getD .null

end DataModel

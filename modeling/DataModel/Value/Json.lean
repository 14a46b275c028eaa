import DataModel.Value
import DataModel.Json.Shape
import DataModel.Json.Reader
import DataModel.Json.Printer

/-! A value and its JSON tree. Keys keep their order in the tree; where JSON text stands for a value on its own,
the keys of every map are ordered. -/

namespace DataModel.Value

mutual

/-- The tree of a value. A number that is not finite has none and becomes null. -/
def toJson : Value → Json
  | null => .null
  | bool b => .bool b
  | int n => .int n.toInt
  | float x => if x.isFinite then .float x else .null
  | text s => .str s
  | list items => .arr (toJsonItems items)
  | map entries => .obj (toJsonEntries entries)

/-- The trees of the items of a list. -/
def toJsonItems : List Value → List Json
  | [] => []
  | v :: vs => toJson v :: toJsonItems vs

/-- The trees of the entries of a map. -/
def toJsonEntries : List (String × Value) → List (String × Json)
  | [] => []
  | (k, v) :: vs => (k, toJson v) :: toJsonEntries vs

end

/-- A whole number: an integer while it fits, a rounded number otherwise. -/
def ofWhole (n : Int) : Value :=
  if -9223372036854775808 ≤ n ∧ n ≤ 9223372036854775807 then int (Int64.ofInt n) else float (Binary64.ofInt n)

mutual

/-- The value of a tree. A repeated key keeps its first place and its last value. -/
def ofJson? : Json → Option Value
  | .null => some null
  | .bool b => some (bool b)
  | .int n => some (ofWhole n)
  | .float x => some (float x)
  | .str s => some (text s)
  | .arr items => (ofJsonItems? items).map list
  | .obj members => (ofJsonMembers? members).map fun es => map (Assoc.ofPairs es)
  | .unreadable => none

/-- The values of the items of a list. -/
def ofJsonItems? : List Json → Option (List Value)
  | [] => some []
  | j :: js => do some ((← ofJson? j) :: (← ofJsonItems? js))

/-- The values of the members of an object. -/
def ofJsonMembers? : List (String × Json) → Option (List (String × Value))
  | [] => some []
  | (k, j) :: ms => do some ((k, ← ofJson? j) :: (← ofJsonMembers? ms))

end

/-- The value of a JSON text, with keys in the order of the text. -/
def parse? (s : String) : Option Value := do
  ofJson? (← Json.parse? s)

/-- The value of a JSON text, with the keys of every map ordered. What a later member of the same key
replaces has to be readable too. -/
def parseSorted? (s : String) : Option Value := do
  ofJson? (← Json.read? s).sorted

/-- Compact JSON text with the keys of every map ordered. -/
def jsonText (v : Value) : String :=
  v.toJson.sorted.text

/-- A record read from a tree, if it is an object. -/
def recordOfJson? (j : Json) : Option Record := do
  (← ofJson? j).record?

/-- The value as shown: texts as they are, numbers without exponent, lists and maps as JSON. -/
def display : Value → String
  | null => "null"
  | bool true => "true"
  | bool false => "false"
  | int n => Numeral.int64Text n
  | float x => x.plainText
  | text s => s
  | v => v.jsonText

end DataModel.Value

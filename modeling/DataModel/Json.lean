import DataModel.Assoc
import DataModel.Binary64

/-! A JSON value as it is written: object members keep their order and may repeat. Numbers are whole numbers
within the 64-bit ranges or binary64 numbers. -/

namespace DataModel

/-- A JSON value. `unreadable` stands for text that has the form of a value but no value: a number
beyond binary64, a string with half a surrogate pair, a list or object nested too deeply. -/
inductive Json where
  | null
  | bool (b : Bool)
  | int (n : Int)
  | float (x : Binary64)
  | str (s : String)
  | arr (items : List Json)
  | obj (members : List (String × Json))
  | unreadable
deriving Inhabited, Repr

namespace Json

mutual

/-- The value with the members of every object ordered by key, of a repeated key the last. -/
def sorted : Json → Json
  | arr items => arr (sortedItems items)
  | obj members => obj (Assoc.sortedByKey (sortedMembers members))
  | j => j

/-- Every item of a list with its members ordered. -/
def sortedItems : List Json → List Json
  | [] => []
  | j :: js => sorted j :: sortedItems js

/-- Every member's value with its members ordered. -/
def sortedMembers : List (String × Json) → List (String × Json)
  | [] => []
  | (k, j) :: ms => (k, sorted j) :: sortedMembers ms

end

mutual

/-- The number of lists and objects around the innermost value, the value itself included. -/
def depth : Json → Nat
  | arr items => depthItems items + 1
  | obj members => depthMembers members + 1
  | _ => 0

/-- The depth of the deepest item. -/
def depthItems : List Json → Nat
  | [] => 0
  | j :: js => max (depth j) (depthItems js)

/-- The depth of the deepest member. -/
def depthMembers : List (String × Json) → Nat
  | [] => 0
  | (_, j) :: ms => max (depth j) (depthMembers ms)

end

mutual

/-- Whether every part of the tree has a value. -/
def readable : Json → Bool
  | arr items => readableItems items
  | obj members => readableMembers members
  | unreadable => false
  | _ => true

/-- Whether every item is readable. -/
def readableItems : List Json → Bool
  | [] => true
  | j :: js => readable j && readableItems js

/-- Whether every member is readable. -/
def readableMembers : List (String × Json) → Bool
  | [] => true
  | (_, j) :: ms => readable j && readableMembers ms

end

/-- The value of a string or of null as an optional text. -/
def ofText? : Option String → Json
  | none => null
  | some s => str s

/-- A natural number. -/
def nat (n : Nat) : Json :=
  int (Int.ofNat n)

end Json

end DataModel

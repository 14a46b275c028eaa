import DataModel.Json
import DataModel.Binary64.Rounding

/-!
# Declared shapes

Reading a JSON tree as something with named parts. A shape may be written as an object or as the
list of its parts in order of declaration. Members that the shape does not name are ignored; a part
given twice is refused. A part that may be absent has a default, and null is no value for it unless
it is optional.
-/

namespace DataModel.Json

variable {α : Type}

/-- Whether a name stands more than once among the members of an object. -/
def isRepeated (members : List (String × Json)) (name : String) : Bool :=
  1 < (members.filter fun m => m.1 = name).length

/-- The parts of a shape whose parts have the given names. -/
def parts? (names : List String) : Json → Option (Assoc Json)
  | obj members => if names.any (isRepeated members) then none else some members
  | arr items => if names.length < items.length then none else some (names.zip items)
  | _ => none

/-- A part that must be there. -/
def part? (parts : Assoc Json) (name : String) (read : Json → Option α) : Option α := do
  read (← parts.get? name)

/-- A part that has a default. -/
def partOr? (parts : Assoc Json) (name : String) (default : α) (read : Json → Option α) : Option α :=
  match parts.get? name with
  | none => some default
  | some j => read j

/-- A string. -/
def text? : Json → Option String
  | str s => some s
  | _ => none

/-- A truth value. -/
def truth? : Json → Option Bool
  | bool b => some b
  | _ => none

/-- A whole number from zero up to below `bound`. -/
def natural? (bound : Nat) : Json → Option Nat
  | int (.ofNat n) => if n < bound then some n else none
  | _ => none

/-- A number. -/
def real? : Json → Option Binary64
  | int n => some (Binary64.ofInt n)
  | float x => some x
  | _ => none

/-- Every item of a list. -/
def items? (read : Json → Option α) : Json → Option (List α)
  | arr items => items.mapM read
  | _ => none

/-- A value or null. -/
def optional? (read : Json → Option α) : Json → Option (Option α)
  | null => some none
  | j => (read j).map some

/-- One of several names, alone or as the only key of an object that holds null. -/
def choice? (choices : List (String × α)) : Json → Option α
  | str s => choices.lookup s
  | obj [(s, null)] => choices.lookup s
  | _ => none

end DataModel.Json

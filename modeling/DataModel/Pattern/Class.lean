import DataModel.Unicode.Lookup

/-! The classes that patterns write with one letter, and the ASCII classes that they name. -/

namespace DataModel.Pattern

/-- Decimal digits of every script. -/
def digit : CharSet :=
  Unicode.inCategories ["nd"]

/-- ASCII digits. -/
def asciiDigit : CharSet :=
  .ofText "30-39"

/-- ASCII white space. -/
def asciiBlank : CharSet :=
  .ofText "9-d 20"

/-- ASCII word characters. -/
def asciiWord : CharSet :=
  .ofText "30-39 41-5a 5f 61-7a"

/-- The ASCII characters. -/
def asciiAll : CharSet :=
  .between 0 127

/-- The characters that words consist of. -/
def wordSet (wide : Bool) : CharSet :=
  if wide then Unicode.word else asciiWord

/-- The ASCII classes by the names they have between brackets. -/
def asciiClasses : List (String × CharSet) :=
  [("alnum", .ofText "30-39 41-5a 61-7a"), ("alpha", .ofText "41-5a 61-7a"), ("ascii", asciiAll),
   ("blank", .ofText "9 20"), ("cntrl", .ofText "0-1f 7f"), ("digit", asciiDigit),
   ("graph", .ofText "21-7e"), ("lower", .ofText "61-7a"), ("print", .ofText "20-7e"),
   ("punct", .ofText "21-2f 3a-40 5b-60 7b-7e"), ("space", asciiBlank), ("upper", .ofText "41-5a"),
   ("word", asciiWord), ("xdigit", .ofText "30-39 41-46 61-66")]

end DataModel.Pattern

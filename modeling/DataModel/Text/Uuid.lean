import DataModel.Json.Token
import DataModel.Text.Segment

/-! The four ways a UUID is written: 32 hexadecimal digits, the same with hyphens in groups of 8-4-4-4-12, that
form between braces, and that form after `urn:uuid:`. -/

namespace DataModel.Uuid

/-- Whether a text has `count` hexadecimal digits and nothing else. -/
def isHex (count : Nat) (cs : List Char) : Bool :=
  cs.length = count && cs.all fun c => (Numeral.hexDigit? c).isSome

/-- Whether a text is the hyphenated form. -/
def isHyphenated (cs : List Char) : Bool :=
  match Segment.cut '-' cs with
  | [a, b, c, d, e] => isHex 8 a && isHex 4 b && isHex 4 c && isHex 4 d && isHex 12 e
  | _ => false

/-- The inside of a text between braces. -/
def unbraced? : List Char → Option (List Char)
  | '\x7b' :: cs => if cs.getLast? = some '\x7d' then some cs.dropLast else none
  | _ => none

/-- The text after the mark of a name, in any case. -/
def unnamed? (cs : List Char) : Option (List Char) :=
  let mark := "urn:uuid:".toList
  if (cs.take mark.length).map Char.toLower = mark then some (cs.drop mark.length) else none

/-- Whether a text is a UUID. -/
def isUuid (s : String) : Bool :=
  let cs := s.toList
  isHex 32 cs || isHyphenated cs || (unbraced? cs).any isHyphenated || (unnamed? cs).any isHyphenated

end DataModel.Uuid

import DataModel.Json
import DataModel.Binary64.Shortest
import DataModel.Text.Segment

/-! Compact text: no blanks, members in the tree's order, strings with the short escapes where JSON has them and
`\u00xx` for the other control characters. Infinities and NaNs are written as null. -/

namespace DataModel.Json

/-- A hexadecimal digit in lower case. -/
def hexChar (n : Nat) : Char :=
  if n < 10 then Char.ofNat (48 + n) else Char.ofNat (87 + n)

/-- A character inside a string. -/
def escapedChar (c : Char) : List Char :=
  if c = '"' then ['\\', '"']
  else if c = '\\' then ['\\', '\\']
  else if c = '\x08' then ['\\', 'b']
  else if c = '\x0c' then ['\\', 'f']
  else if c = '\n' then ['\\', 'n']
  else if c = '\r' then ['\\', 'r']
  else if c = '\t' then ['\\', 't']
  else if c.toNat < 32 then ['\\', 'u', '0', '0', hexChar (c.toNat / 16), hexChar (c.toNat % 16)]
  else [c]

/-- The characters of a string with those escaped that cannot stand for themselves. -/
def escapedChars : List Char → List Char
  | [] => []
  | c :: cs => escapedChar c ++ escapedChars cs

/-- A string between quotes. -/
def quoted (s : String) : String :=
  String.ofList ('"' :: (escapedChars s.toList ++ ['"']))

/-- A number; null when there is none. -/
def floatText (x : Binary64) : String :=
  if x.isFinite then x.scientificText else "null"

mutual

/-- The compact text of a tree. -/
def text : Json → String
  | null => "null"
  | bool true => "true"
  | bool false => "false"
  | int n => Numeral.intText n
  | float x => floatText x
  | str s => quoted s
  | arr items => "[" ++ textItems items ++ "]"
  | obj members => "\x7b" ++ textMembers members ++ "\x7d"
  | unreadable => "null"

/-- Items with commas between them. -/
def textItems : List Json → String
  | [] => ""
  | [j] => text j
  | j :: js => text j ++ "," ++ textItems js

/-- Members with commas between them. -/
def textMembers : List (String × Json) → String
  | [] => ""
  | [(k, j)] => quoted k ++ ":" ++ text j
  | (k, j) :: ms => quoted k ++ ":" ++ text j ++ "," ++ textMembers ms

end

end DataModel.Json

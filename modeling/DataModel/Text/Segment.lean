/-! Cutting a text at a separator, joining texts, and the small rewritings that quoting needs. -/

namespace DataModel.Segment

/-- The pieces of a text between the separators `sep`; a text without a separator is one piece. -/
def cut (sep : Char) : List Char → List (List Char)
  | [] => [[]]
  | c :: cs =>
    if c = sep then [] :: cut sep cs
    else
      match cut sep cs with
      | [] => [[c]]
      | piece :: pieces => (c :: piece) :: pieces

/-- The pieces as texts. -/
def pieces (sep : Char) (text : String) : List String :=
  (cut sep text.toList).map String.ofList

/-- Texts one after the other with `sep` between them. -/
def join (sep : String) : List String → String
  | [] => ""
  | [s] => s
  | s :: t :: rest => s ++ sep ++ join sep (t :: rest)

/-- Write `mark` twice wherever it stands. -/
def doubling (mark : Char) : List Char → List Char
  | [] => []
  | c :: cs => if c = mark then mark :: mark :: doubling mark cs else c :: doubling mark cs

/-- ASCII letters in lower case, all else as it is. -/
def lower (text : String) : String :=
  String.ofList (text.toList.map Char.toLower)

/-- The text after `head`, if it starts so. -/
def after? : List Char → List Char → Option (List Char)
  | [], cs => some cs
  | h :: hs, c :: cs => if h = c then after? hs cs else none
  | _ :: _, [] => none

end DataModel.Segment

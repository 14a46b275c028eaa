import DataModel.Pattern.Mode

/-! What a backslash introduces in a pattern: a character that would mean something else, a character by its
number, a class, a property or an assertion. -/

namespace DataModel.Pattern

/-- What a plain character or an escape stands for. -/
inductive Primitive where
  /-- One character; `octet` when it was written as two hexadecimal digits. -/
  | literal (c : Char) (octet : Bool)
  | set (s : CharSet)
  | assertion (a : Assertion)

namespace Escape

/-- The character with a number in hexadecimal digits. -/
def ofHex? (digits : List Char) : Option Char := do
  let n ← digits.foldlM (fun acc c => (Numeral.hexDigit? c).map (acc * 16 + ·)) 0
  if n.isValidChar then some (Char.ofNat n) else none

/-- Up to `count` digits, blanks between them dropped where they do not count. -/
def fixedDigits? (m : Mode) : Nat → List Char → Option (List Char × List Char)
  | 0, cs => some ([], cs)
  | n + 1, cs =>
    match m.skip cs with
    | [] => none
    | c :: rest => do
      let (digits, rest) ← fixedDigits? m n rest
      some (c :: digits, rest)

/-- The characters before a closing brace and what follows it. -/
def untilBrace? (m : Mode) : Nat → List Char → Option (List Char × List Char)
  | 0, _ => none
  | fuel + 1, cs =>
    match m.skip cs with
    | [] => none
    | '\x7d' :: rest => some ([], rest)
    | c :: rest => do
      let (name, rest) ← untilBrace? m fuel rest
      some (c :: name, rest)

/-- A character by its number, after the letter that announces it: in braces, or as `count` digits. -/
def hex? (m : Mode) (count : Nat) (cs : List Char) : Option (Primitive × List Char) :=
  match m.skip cs with
  | '\x7b' :: cs => do
    let (digits, rest) ← untilBrace? m (cs.length + 1) cs
    if digits.isEmpty then none
    else
      let c ← ofHex? digits
      some (.literal c false, m.skip rest)
  | cs => do
    let (digits, rest) ← fixedDigits? m count cs
    let c ← ofHex? digits
    some (.literal c (count = 2), m.skip rest)

/-- The text before the first `!=`, `:` or `=`, looked for in this order, and the text after it, with
whether the property is denied. -/
def splitName (name : List Char) : Option (Bool × List Char × List Char) :=
  let at? (mark : List Char) : Option (List Char × List Char) :=
    (List.range name.length).findSome? fun i =>
      (Segment.after? mark (name.drop i)).map fun value => (name.take i, value)
  (at? ['!', '=']).map (true, ·) <|> (at? [':']).map (false, ·) <|> (at? ['=']).map (false, ·)

/-- A Unicode property, after the letter that announces it. -/
def property? (m : Mode) (negated : Bool) (cs : List Char) : Option (Primitive × List Char) := do
  if ¬ m.unicode then none
  let finish (negated : Bool) (s : Option CharSet) : Option Primitive := do
    let s ← m.closed? negated (← s)
    some (.set s)
  match m.skip cs with
  | [] => none
  | '\\' :: _ => none
  | '\x7b' :: cs =>
    let (name, rest) ← untilBrace? m (cs.length + 1) cs
    match splitName name with
    | some (denied, property, value) =>
      let p ← finish (negated != denied) (Unicode.valued? (String.ofList property) (String.ofList value))
      some (p, rest)
    | none =>
      let p ← finish negated (Unicode.property? (String.ofList name))
      some (p, rest)
  | c :: cs =>
    let p ← finish negated (Unicode.property? (String.singleton c))
    some (p, m.skip cs)

/-- A class by its letter; a capital letter means what is not in the class. -/
def class? (m : Mode) (letter : Char) : Option CharSet :=
  let set (wide narrow : CharSet) : CharSet := if m.unicode then wide else narrow
  let outside (s : CharSet) : Option CharSet := if m.unicode then some s.compl else none
  match letter with
  | 'd' => some (set digit asciiDigit)
  | 's' => some (set Unicode.blank asciiBlank)
  | 'w' => some (set Unicode.word asciiWord)
  | 'D' => outside digit
  | 'S' => outside Unicode.blank
  | 'W' => outside Unicode.word
  | _ => none

/-- The characters that stand for a control character after a backslash. -/
def control? : Char → Option Char
  | 'a' => some '\x07'
  | 'f' => some '\x0c'
  | 't' => some '\t'
  | 'n' => some '\n'
  | 'r' => some '\r'
  | 'v' => some '\x0b'
  | _ => none

/-- Whether a backslash before the character makes it stand for itself: any ASCII character that is
neither a letter nor a digit nor an angle bracket. -/
def standsForItself (c : Char) : Bool :=
  c.toNat < 128 && !c.isAlphanum && c ≠ '<' && c ≠ '>'

/-- Whether a name of a word boundary may contain the character. -/
def isBoundaryNameChar (c : Char) : Bool :=
  c.isAlpha || c = '-'

/-- The letters in front, blanks between them dropped where they do not count. -/
def boundaryName (m : Mode) : Nat → List Char → List Char × List Char
  | 0, cs => ([], cs)
  | fuel + 1, cs =>
    match cs with
    | [] => ([], [])
    | c :: rest =>
      if isBoundaryNameChar c then
        let (name, rest) := boundaryName m fuel (m.skip rest)
        (c :: name, rest)
      else ([], c :: rest)

/-- A word boundary, possibly of a kind named in braces. Braces with anything else in front are left
to be read as a repetition. -/
def boundary? (m : Mode) (cs : List Char) : Option (Primitive × List Char) :=
  match cs with
  | '\x7b' :: inner =>
    match m.skip inner with
    | [] => none
    | c :: rest =>
      if isBoundaryNameChar c then
        match boundaryName m (rest.length + 1) (c :: rest) with
        | (name, '\x7d' :: rest) =>
          match String.ofList name with
          | "start" => some (.assertion (.wordStart m.unicode), rest)
          | "end" => some (.assertion (.wordEnd m.unicode), rest)
          | "start-half" => some (.assertion (.wordStartHalf m.unicode), rest)
          | "end-half" => some (.assertion (.wordEndHalf m.unicode), rest)
          | _ => none
        | _ => none
      else some (.assertion (.boundary m.unicode), cs)
  | _ => some (.assertion (.boundary m.unicode), cs)

/-- The primitive after a backslash and the rest of the text. -/
def read? (m : Mode) (cs : List Char) : Option (Primitive × List Char) :=
  match cs with
  | [] => none
  | 'x' :: rest => hex? m 2 rest
  | 'u' :: rest => hex? m 4 rest
  | 'U' :: rest => hex? m 8 rest
  | 'p' :: rest => property? m false rest
  | 'P' :: rest => property? m true rest
  | 'A' :: rest => some (.assertion .textStart, rest)
  | 'z' :: rest => some (.assertion .textEnd, rest)
  | 'b' :: rest => boundary? m rest
  | 'B' :: rest => some (.assertion (.noBoundary m.unicode), rest)
  | '<' :: rest => some (.assertion (.wordStart m.unicode), rest)
  | '>' :: rest => some (.assertion (.wordEnd m.unicode), rest)
  | c :: rest =>
    if standsForItself c then some (.literal c false, rest)
    else
      match control? c with
      | some control => some (.literal control false, rest)
      | none => (class? m c).map fun s => (.set s, rest)

end Escape

end DataModel.Pattern

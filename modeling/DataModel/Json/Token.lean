import DataModel.Json
import DataModel.Binary64.Rounding
import DataModel.Text.Numeral

/-! The words of a JSON text: punctuation, the three names, numbers and strings. Blanks between tokens are space,
tab, line feed and carriage return.

A number without fraction and exponent that fits the 64-bit ranges is a whole number; minus zero is not. Any
other number is a binary64 number, found by rounding its significand and scaling it by a rounded power of ten.
The significand takes digits as long as it fits an unsigned 64-bit number. -/

namespace DataModel.Json

/-- One word of a JSON text. -/
inductive Token where
  | openList
  | closeList
  | openObject
  | closeObject
  | comma
  | colon
  | scalar (value : Json)
  /-- A string, or `none` for one with half a surrogate pair. -/
  | text (value : Option String)

/-- The parts of a number as written. -/
structure NumberText where
  negative : Bool
  whole : List Nat
  fraction : Option (List Nat)
  /-- Whether the exponent is negative, and its digits. -/
  exponent : Option (Bool × List Nat)

/-- Digits at the start of a text, and the rest. -/
def leadingDigits : List Char → List Nat × List Char
  | [] => ([], [])
  | c :: cs =>
    match Numeral.digit? c with
    | some d => let r := leadingDigits cs; (d :: r.1, r.2)
    | none => ([], c :: cs)

/-- Let a significand take digits while it fits; the number of digits left over. -/
def absorb (significand : Nat) : List Nat → Nat × Nat
  | [] => (significand, 0)
  | d :: ds =>
    if significand * 10 + d < twoTo 64 then absorb (significand * 10 + d) ds
    else (significand, (d :: ds).length)

/-- Ten to the power `e`, rounded. -/
def powerOfTen (e : Nat) : Binary64 :=
  Binary64.ofNat (tenTo e)

/-- Divide by ten to the power `e`, at most `10 ^ 308` at a time. -/
def scaledDown : Nat → Binary64 → Nat → Binary64
  | 0, x, e => x.dividedBy (powerOfTen e)
  | n + 1, x, e =>
    if e ≤ 308 then x.dividedBy (powerOfTen e)
    else if x.isZero then x
    else scaledDown n (x.dividedBy (powerOfTen 308)) (e - 308)

/-- The rounded significand scaled by a power of ten; no value beyond the largest number. -/
def scaled (negative : Bool) (significand : Nat) (exponent : Int) : Json :=
  let x := Binary64.ofNat significand
  let signed (y : Binary64) : Json := float (if negative then y.negated else y)
  match exponent with
  | .ofNat e =>
    if e ≤ 308 then
      let y := x.times (powerOfTen e)
      if y.isFinite then signed y else unreadable
    else if significand = 0 then signed Binary64.zero
    else unreadable
  | .negSucc e => signed (scaledDown (e / 308 + 1) x (e + 1))

/-- The largest exponent that is counted; digits beyond it make the number zero or too large. -/
def exponentLimit : Nat :=
  twoTo 31 - 1

/-- The number the digits of an exponent stand for. -/
def digitsValue (digits : List Nat) : Nat :=
  digits.foldl (fun acc d => acc * 10 + d) 0

/-- The value of a number. -/
def NumberText.value (t : NumberText) : Json :=
  let (whole, dropped) := absorb 0 t.whole
  match t.fraction, t.exponent with
  | none, none =>
    if dropped = 0 then
      if !t.negative then nat whole
      else if whole = 0 ∨ twoTo 63 < whole then float (Binary64.ofNat whole).negated
      else int (-(Int.ofNat whole))
    else scaled t.negative whole dropped
  | fraction, exponent =>
    let places := fraction.getD []
    let (significand, left) := absorb whole places
    let start : Int := dropped - (places.length - left : Nat)
    match exponent with
    | none => scaled t.negative significand start
    | some (down, digits) =>
      let e := digitsValue digits
      if exponentLimit < e then
        if significand ≠ 0 ∧ !down then unreadable
        else float (if t.negative then Binary64.zero.negated else Binary64.zero)
      else scaled t.negative significand (if down then start - e else start + e)

/-- The fraction of a number, if there is one; a point needs digits after it. -/
def fraction? : List Char → Option (Option (List Nat) × List Char)
  | '.' :: cs =>
    match leadingDigits cs with
    | ([], _) => none
    | (ds, rest) => some (some ds, rest)
  | cs => some (none, cs)

/-- The digits of an exponent after its sign. -/
def exponentDigits? (down : Bool) (cs : List Char) :
    Option (Option (Bool × List Nat) × List Char) :=
  match leadingDigits cs with
  | ([], _) => none
  | (ds, rest) => some (some (down, ds), rest)

/-- The exponent of a number, if there is one. -/
def exponent? : List Char → Option (Option (Bool × List Nat) × List Char)
  | c :: cs =>
    if c = 'e' ∨ c = 'E' then
      match cs with
      | '+' :: ds => exponentDigits? false ds
      | '-' :: ds => exponentDigits? true ds
      | ds => exponentDigits? false ds
    else some (none, c :: cs)
  | [] => some (none, [])

/-- A number without its sign. A zero in front stands alone. -/
def number? (negative : Bool) (cs : List Char) : Option (NumberText × List Char) := do
  let (whole, rest) := leadingDigits cs
  match whole with
  | [] => none
  | 0 :: _ :: _ => none
  | _ =>
    let (fraction, rest) ← fraction? rest
    let (exponent, rest) ← exponent? rest
    some (⟨negative, whole, fraction, exponent⟩, rest)

/-- The value of four hexadecimal digits. -/
def hexUnit? (a b c d : Char) : Option Nat := do
  some (((← Numeral.hexDigit? a) * 16 + (← Numeral.hexDigit? b)) * 256 + (← Numeral.hexDigit? c) * 16 + (← Numeral.hexDigit? d))

/-- The character behind a backslash, apart from `u`. -/
def escaped? : Char → Option Char
  | '"' => some '"'
  | '\\' => some '\\'
  | '/' => some '/'
  | 'b' => some '\x08'
  | 'f' => some '\x0c'
  | 'n' => some '\n'
  | 'r' => some '\r'
  | 't' => some '\t'
  | _ => none

/-- A piece of a string as written: a character, or the 16-bit unit of a `\u` escape. -/
inductive Piece where
  | char (c : Char)
  | unit (n : Nat)

/-- The pieces of a string behind its opening quote, and the rest of the text. -/
def pieces? : List Char → Option (List Piece × List Char)
  | [] => none
  | '"' :: rest => some ([], rest)
  | '\\' :: 'u' :: a :: b :: c :: d :: rest => do
    let n ← hexUnit? a b c d
    let (ps, rest) ← pieces? rest
    some (.unit n :: ps, rest)
  | '\\' :: c :: rest => do
    let e ← escaped? c
    let (ps, rest) ← pieces? rest
    some (.char e :: ps, rest)
  | c :: rest =>
    if c.toNat < 32 then none
    else do
      let (ps, rest) ← pieces? rest
      some (.char c :: ps, rest)

/-- The characters of a string: two units of a surrogate pair are one character, and half a pair is
none. -/
def characters? : List Piece → Option (List Char)
  | [] => some []
  | .char c :: ps => do some (c :: (← characters? ps))
  | .unit n :: .unit m :: ps =>
    if n < 0xD800 ∨ 0xDFFF < n then do some (Char.ofNat n :: (← characters? (.unit m :: ps)))
    else if n < 0xDC00 ∧ 0xDC00 ≤ m ∧ m ≤ 0xDFFF then do
      some (Char.ofNat (0x10000 + (n - 0xD800) * 0x400 + (m - 0xDC00)) :: (← characters? ps))
    else none
  | .unit n :: ps =>
    if n < 0xD800 ∨ 0xDFFF < n then do some (Char.ofNat n :: (← characters? ps)) else none

/-- The first token of a text that does not start with a blank, and the rest. -/
def token? : List Char → Option (Token × List Char)
  | '[' :: cs => some (.openList, cs)
  | ']' :: cs => some (.closeList, cs)
  | '\x7b' :: cs => some (.openObject, cs)
  | '\x7d' :: cs => some (.closeObject, cs)
  | ',' :: cs => some (.comma, cs)
  | ':' :: cs => some (.colon, cs)
  | 't' :: 'r' :: 'u' :: 'e' :: cs => some (.scalar (.bool true), cs)
  | 'f' :: 'a' :: 'l' :: 's' :: 'e' :: cs => some (.scalar (.bool false), cs)
  | 'n' :: 'u' :: 'l' :: 'l' :: cs => some (.scalar .null, cs)
  | '"' :: cs => do
    let (ps, rest) ← pieces? cs
    some (.text ((characters? ps).map String.ofList), rest)
  | '-' :: cs => do
    let (n, rest) ← number? true cs
    some (.scalar n.value, rest)
  | cs => do
    let (n, rest) ← number? false cs
    some (.scalar n.value, rest)

/-- Whether a character may stand between tokens. -/
def isSeparator (c : Char) : Bool :=
  c = ' ' || c = '\t' || c = '\n' || c = '\r'

/-- The tokens of a text, in at most `fuel` steps of one blank or one token. -/
def tokensWithin : Nat → List Char → Option (List Token)
  | _, [] => some []
  | 0, _ :: _ => none
  | fuel + 1, c :: cs =>
    if isSeparator c then tokensWithin fuel cs
    else do
      let (t, rest) ← token? (c :: cs)
      let ts ← tokensWithin fuel rest
      some (t :: ts)

/-- The tokens of a text. Every step takes at least one character. -/
def tokens? (cs : List Char) : Option (List Token) :=
  tokensWithin cs.length cs

end DataModel.Json

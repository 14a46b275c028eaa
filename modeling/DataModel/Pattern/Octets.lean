import DataModel.CharSet

/-! Characters as one to four octets, and sets of characters as sequences of octet ranges: a span of characters is
cut until each part has one range for every octet. -/

namespace DataModel.Octets

/-- The octets from one to another. -/
structure Range where
  low : Nat
  high : Nat
deriving DecidableEq, Repr

/-- An octet that continues a character holds six bits of its code point. -/
def continuation (bits : Nat) : Nat :=
  128 + bits % 64

/-- The octets of the character with a code point. -/
def ofCode (n : Nat) : List Nat :=
  if n < 0x80 then [n]
  else if n < 0x800 then [192 + n / 64, continuation n]
  else if n < 0x10000 then [224 + n / 4096, continuation (n / 64), continuation n]
  else [240 + n / 262144, continuation (n / 4096), continuation (n / 64), continuation n]

/-- The octets of a text. -/
def ofText (cs : List Char) : List Nat :=
  cs.flatMap fun c => ofCode c.toNat

/-- The last code points with one, two and three octets, and the last one before the surrogates. -/
def borders : List Nat :=
  [0xd7ff, 0x7f, 0x7ff, 0xffff]

/-- How many characters begin with the same octets, but for the last one, two and three. -/
def blocks : List Nat :=
  [64, 4096, 262144]

/-- Where a span of characters with equally many octets is cut so that it consists of whole blocks:
the last code point of the first part. -/
def alignedCut? (s : Span) (block : Nat) : Option Nat :=
  if s.low / block = s.high / block then none
  else if s.low % block ≠ 0 then some (s.low / block * block + block - 1)
  else if s.high % block ≠ block - 1 then some (s.high / block * block - 1)
  else none

/-- Where a span of characters is cut first. -/
def cut? (s : Span) : Option Nat :=
  match borders.find? fun b => s.low ≤ b && b < s.high with
  | some b => some b
  | none => if s.high < 0x80 then none else blocks.findSome? (alignedCut? s)

/-- The parts of a span that are not cut again, in order, after at most `n` cuts one in the other. -/
def parts : Nat → Span → List Span
  | 0, s => [s]
  | n + 1, s =>
    match cut? s with
    | some c => parts n ⟨s.low, c⟩ ++ parts n ⟨CharSet.next c, s.high⟩
    | none => [s]

/-- No span is cut more often in one place. -/
def cutLimit : Nat :=
  32

/-- The sequences of octet ranges of a span. -/
def ofSpan (s : Span) : List (List Range) :=
  (parts cutLimit s).map fun t => (ofCode t.low).zipWith Range.mk (ofCode t.high)

/-- The sequences of octet ranges of a set, in order. -/
def sequences (s : CharSet) : List (List Range) :=
  s.spans.toList.flatMap ofSpan

end DataModel.Octets

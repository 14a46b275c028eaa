import DataModel.Text.Numeral
import DataModel.Text.Segment

/-!
# Sets of characters

A set of characters is a row of spans of code points, in ascending order and with a gap between each
two. Surrogates are no characters: the code point after `d7ff` is `e000`.

Sets are written as hexadecimal numbers with blanks and line ends between them: `a` for one
character, `a-b` for a span and `a-b/n` for every `n`-th code point of one.
-/

namespace DataModel

/-- The code points from one to another. -/
structure Span where
  low : Nat
  high : Nat
deriving DecidableEq, Repr

/-- A set of characters. -/
structure CharSet where
  spans : Array Span
deriving DecidableEq, Repr

namespace CharSet

/-- The highest code point. -/
def top : Nat :=
  0x10ffff

/-- The code point after one. -/
def next (n : Nat) : Nat :=
  if n = 0xd7ff then 0xe000 else n + 1

/-- The code point before one. -/
def previous (n : Nat) : Nat :=
  if n = 0xe000 then 0xd7ff else n - 1

/-- Whether a code point lies in one of the spans from place `low` up to below place `high`. -/
def search (spans : Array Span) (n low high : Nat) : Bool :=
  if _h : low < high then
    let middle := (low + high) / 2
    match spans[middle]? with
    | none => false
    | some s =>
      if n < s.low then search spans n low middle
      else if s.high < n then search spans n (middle + 1) high
      else true
  else false
termination_by high - low

/-- Whether a code point belongs to a set. -/
def has (s : CharSet) (n : Nat) : Bool :=
  search s.spans n 0 s.spans.size

/-- Join spans that touch or overlap. The spans given are in order of their starts; those joined so
far stand newest first. -/
def joined : List Span → List Span → List Span
  | done, [] => done.reverse
  | [], s :: rest => joined [s] rest
  | t :: done, s :: rest =>
    if s.low ≤ next t.high then joined (⟨t.low, max t.high s.high⟩ :: done) rest
    else joined (s :: t :: done) rest

/-- The set of the code points of some spans. -/
def ofSpans (spans : List Span) : CharSet :=
  ⟨(joined [] (spans.mergeSort fun s t => s.low ≤ t.low)).toArray⟩

/-- The empty set. -/
def empty : CharSet :=
  ⟨#[]⟩

/-- All characters. -/
def all : CharSet :=
  ⟨#[⟨0, top⟩]⟩

/-- The characters from one to another. -/
def between (low high : Nat) : CharSet :=
  ⟨#[⟨low, high⟩]⟩

/-- One character. -/
def single (c : Char) : CharSet :=
  between c.toNat c.toNat

/-- The characters of either set. -/
def union (s t : CharSet) : CharSet :=
  ⟨(joined [] (s.spans.toList.merge t.spans.toList fun a b => a.low ≤ b.low)).toArray⟩

/-- The characters of some sets. -/
def unions (sets : List CharSet) : CharSet :=
  ofSpans (sets.flatMap fun s => s.spans.toList)

/-- The gaps between spans, from a code point on. -/
def gaps (start : Nat) : List Span → List Span
  | [] => if start ≤ top then [⟨start, top⟩] else []
  | s :: rest =>
    if start < s.low then ⟨start, previous s.low⟩ :: gaps (next s.high) rest
    else gaps (next s.high) rest

/-- The characters outside a set. -/
def compl (s : CharSet) : CharSet :=
  ⟨(gaps 0 s.spans.toList).toArray⟩

/-- The characters of both sets. -/
def inter (s t : CharSet) : CharSet :=
  compl (union (compl s) (compl t))

/-- The characters of the first set that are not in the second. -/
def difference (s t : CharSet) : CharSet :=
  inter s (compl t)

/-- The characters that are in exactly one of two sets. -/
def symmetric (s t : CharSet) : CharSet :=
  union (difference s t) (difference t s)

/-- Whether a set has no character. -/
def isEmpty (s : CharSet) : Bool :=
  s.spans.isEmpty

/-- Whether a set has ASCII characters only. -/
def isAscii (s : CharSet) : Bool :=
  match s.spans.back? with
  | some last => last.high ≤ 127
  | none => true

/-- The only character of a set. -/
def only? (s : CharSet) : Option Char :=
  match s.spans.toList with
  | [a] => if a.low = a.high then some (Char.ofNat a.low) else none
  | _ => none

/-- The number a text in hexadecimal stands for; other characters count as zero. -/
def hexValue (cs : List Char) : Nat :=
  cs.foldl (fun acc c => acc * 16 + (Numeral.hexDigit? c).getD 0) 0

/-- Every `step`-th code point from `low` to `high`. -/
def every (step low high : Nat) : List Span :=
  (List.range ((high - low) / step + 1)).map fun i => ⟨low + i * step, low + i * step⟩

/-- The spans that a word stands for. -/
def spansOfWord (word : List Char) : List Span :=
  match Segment.cut '-' word with
  | [low, high] =>
    match Segment.cut '/' high with
    | [high, step] => every (hexValue step) (hexValue low) (hexValue high)
    | _ => [⟨hexValue low, hexValue high⟩]
  | _ => [⟨hexValue word, hexValue word⟩]

/-- The set a text stands for. -/
def ofText (text : String) : CharSet :=
  let words := (Segment.cut '\n' text.toList).flatMap (Segment.cut ' ')
  ofSpans ((words.filter fun w => !w.isEmpty).flatMap spansOfWord)

end CharSet

end DataModel

import DataModel.Pattern.Bracket
import DataModel.Pattern.Size
import DataModel.Power

/-!
# Reading patterns

A pattern is alternatives separated by bars; an alternative is a sequence of items, each of which may
be repeated. Groups hold patterns of their own. Letters after `(?` switch settings on and off, up to
the end of the group they stand in. A pattern may not refer back to what a group matched, nor look
ahead or behind.
-/

namespace DataModel.Pattern

/-- A pattern with the depth to which its parts are nested. -/
structure Nested where
  pattern : Pattern
  depth : Nat

namespace Nested

/-- Patterns nested deeper than this are refused. -/
def depthLimit : Nat :=
  250

/-- A pattern without parts. -/
def leaf (p : Pattern) : Nested :=
  ⟨p, 0⟩

/-- A sequence from its items, last one first; an item without a pattern only switched settings. -/
def ofItems (items : List (Option Nested)) : Nested :=
  let parts := (items.filterMap id).reverse
  let deepest := parts.foldl (fun d n => max d n.depth) 0
  ⟨.sequence (parts.map Nested.pattern), if 2 ≤ items.length then deepest + 1 else deepest⟩

/-- The choice between alternatives, last one first. -/
def ofAlternatives (last : Nested) (earlier : List Nested) : Nested :=
  match earlier with
  | [] => last
  | _ =>
    let deepest := earlier.foldl (fun d n => max d n.depth) last.depth
    ⟨.choice ((last :: earlier).reverse.map Nested.pattern), deepest + 1⟩

/-- A repeated pattern. -/
def times (n : Nested) (low : Nat) (high : Option Nat) (lazy : Bool) : Nested :=
  ⟨n.pattern.times low high lazy, n.depth + 1⟩

/-- A pattern in a group of its own, remembered under a number if it has one. -/
def grouped (n : Nested) (number : Option Nat) : Nested :=
  ⟨match number with
    | some k => .group k n.pattern
    | none => n.pattern, n.depth + 1⟩

end Nested

namespace Reader

/-- The settings that letters switch: a letter may stand once, a hyphen once and not last. -/
def settings? (m : Mode) (on : Bool) (seen : List Char) : List Char → Option Mode
  | [] => if seen.head? = some '-' then none else some m
  | c :: cs =>
    if seen.contains c then none
    else if c = '-' then settings? m false (c :: seen) cs
    else
      match m.switch? c on with
      | some m => settings? m on (c :: seen) cs
      | none => none

/-- Whether a group's name may contain the character. -/
def isNameChar (first : Bool) (c : Char) : Bool :=
  if first then c = '_' || Unicode.alphabetic.has c.toNat
  else c = '_' || c = '.' || c = '[' || c = ']' || Unicode.alphanumeric.has c.toNat

/-- Whether a text is a group's name. -/
def isName : List Char → Bool
  | [] => false
  | c :: cs => isNameChar true c && cs.all (isNameChar false)

/-- The groups that have begun: how many are remembered, and the names that some of them have. -/
structure Groups where
  count : Nat
  names : List String

/-- What an opening parenthesis begins. -/
inductive GroupStart where
  /-- A group with the settings in it and, if it is remembered, its number. -/
  | group (m : Mode) (number : Option Nat) (groups : Groups)
  /-- Settings up to the end of the surrounding group. -/
  | settings (m : Mode)

/-- A group that is remembered. -/
def remembered (m : Mode) (groups : Groups) (names : List String) : GroupStart :=
  .group m (some (groups.count + 1)) ⟨groups.count + 1, names⟩

/-- A group with a name that no other group has. -/
def named? (m : Mode) (groups : Groups) (cs : List Char) : Option (GroupStart × List Char) :=
  let name := cs.takeWhile (· ≠ '>')
  match cs.drop name.length with
  | _ :: rest =>
    if isName name ∧ ¬ groups.names.contains (String.ofList name) then
      some (remembered m groups (String.ofList name :: groups.names), rest)
    else none
  | [] => none

/-- What stands after an opening parenthesis. -/
def groupStart? (m : Mode) (groups : Groups) (cs : List Char) : Option (GroupStart × List Char) :=
  match m.skip cs with
  | '?' :: '=' :: _ | '?' :: '!' :: _ | '?' :: '<' :: '=' :: _ | '?' :: '<' :: '!' :: _ => none
  | '?' :: 'P' :: '<' :: cs | '?' :: '<' :: cs => named? m groups cs
  | '?' :: cs =>
    let letters := cs.takeWhile fun c => c ≠ ':' && c ≠ ')'
    match settings? m true [] letters, cs.drop letters.length with
    | some m, ':' :: rest => some (.group m none groups, rest)
    | some m, ')' :: rest => if letters.isEmpty then none else some (.settings m, rest)
    | _, _ => none
  | cs => some (remembered m groups groups.names, cs)

/-- Counts of repetitions are below this bound. -/
def countBound : Nat :=
  twoTo 32

/-- Digits in front, blanks between them dropped where they do not count. -/
def digits (m : Mode) : Nat → List Char → List Char × List Char
  | 0, cs => ([], cs)
  | fuel + 1, cs =>
    match cs with
    | [] => ([], [])
    | c :: rest =>
      if c.isDigit then
        let (ds, rest) := digits m fuel (m.skip rest)
        (c :: ds, rest)
      else ([], c :: rest)

/-- A count with white space around it. -/
def count? (m : Mode) (cs : List Char) : Option Nat × List Char :=
  let cs := Blank.dropLeading cs
  let (ds, rest) := digits m cs.length cs
  let rest := m.skip (Blank.dropLeading rest)
  (match Numeral.natural? ds with
   | some n => if n < countBound then some n else none
   | none => none, rest)

/-- How often a counted repetition repeats, after its opening brace. -/
def bounds? (m : Mode) (cs : List Char) : Option (Nat × Option Nat × List Char) :=
  match count? m (m.skip cs) with
  | (some low, '\x7d' :: rest) => some (low, some low, m.skip rest)
  | (some low, ',' :: rest) =>
    match m.skip rest with
    | '\x7d' :: rest => some (low, none, m.skip rest)
    | rest =>
      match count? m rest with
      | (some high, '\x7d' :: rest) => if low ≤ high then some (low, some high, m.skip rest) else none
      | _ => none
  | _ => none

/-- Whether a question mark after a repetition asks for fewer times first, and what follows. -/
def laziness (m : Mode) : List Char → Bool × List Char
  | '?' :: cs => (!m.swapGreed, cs)
  | cs => (m.swapGreed, cs)

/-- The pattern of a primitive. -/
def ofPrimitive? (m : Mode) : Primitive → Option Pattern
  | .literal c octet => m.literal? c octet
  | .set s => some (.ofSet s)
  | .assertion a => some (.assertion a)

/-- One item that is neither a group nor a bracketed set. -/
def primitive? (m : Mode) : List Char → Option (Pattern × List Char)
  | [] => none
  | '.' :: rest => m.dot?.map fun s => (.ofSet s, rest)
  | '^' :: rest => some (.assertion m.lineStart, rest)
  | '$' :: rest => some (.assertion m.lineEnd, rest)
  | '\\' :: rest => do
    let (p, rest) ← Escape.read? m rest
    some (← ofPrimitive? m p, rest)
  | c :: rest => do
    some (← ofPrimitive? m (.literal c false), rest)

/-- How often a repetition repeats, by the sign that stands for it, and the rest of the text. -/
def repetition? (m : Mode) (sign : Char) (cs : List Char) : Option (Nat × Option Nat × List Char) :=
  match sign with
  | '?' => some (0, some 1, cs)
  | '*' => some (0, none, cs)
  | '+' => some (1, none, cs)
  | '\x7b' => bounds? m cs
  | _ => none

/-- The items with the last one repeated, if it is one that can be, and the rest of the text after the
sign of the repetition. -/
def repeatLast? (m : Mode) (sign : Char) (items : List (Option Nested)) (cs : List Char) :
    Option (List (Option Nested) × List Char) :=
  match items with
  | some n :: earlier => do
    let (low, high, rest) ← repetition? m sign cs
    let (lazy, rest) := laziness m rest
    some (some (n.times low high lazy) :: earlier, rest)
  | _ => none

/-- Whether a character is the sign of a repetition. -/
def isRepetition (c : Char) : Bool :=
  c = '?' || c = '*' || c = '+' || c = '\x7b'

/-- The pattern up to the end of the group it stands in, with the groups that have begun and the rest
of the text. -/
def group? :
    Nat → Mode → Groups → List Nested → List (Option Nested) → List Char →
      Option (Nested × Groups × List Char)
  | 0, _, _, _, _, _ => none
  | fuel + 1, m, groups, earlier, items, cs =>
    match m.skip cs with
    | [] => some (.ofAlternatives (.ofItems items) earlier, groups, [])
    | ')' :: rest => some (.ofAlternatives (.ofItems items) earlier, groups, ')' :: rest)
    | '|' :: rest => group? fuel m groups (.ofItems items :: earlier) [] rest
    | '(' :: rest =>
      match groupStart? m groups rest with
      | some (.settings m, rest) => group? fuel m groups earlier (none :: items) rest
      | some (.group inner number groups, rest) =>
        match group? fuel inner groups [] [] rest with
        | some (n, groups, ')' :: rest) =>
          group? fuel m groups earlier (some (n.grouped number) :: items) rest
        | _ => none
      | none => none
    | '[' :: rest =>
      match Bracket.read? m rest with
      | some (s, depth, rest) => group? fuel m groups earlier (some ⟨.ofSet s, depth⟩ :: items) rest
      | none => none
    | c :: rest =>
      if isRepetition c then
        match repeatLast? m c items rest with
        | some (items, rest) => group? fuel m groups earlier items rest
        | none => none
      else
        match primitive? m (c :: rest) with
        | some (p, rest) => group? fuel m groups earlier (some (.leaf p) :: items) rest
        | none => none

end Reader

/-- The pattern of a text, if it is one and its machine is not too large. -/
def parse? (text : String) : Option Pattern :=
  let cs := text.toList
  match Reader.group? (cs.length + 1) {} ⟨0, []⟩ [] [] cs with
  | some (n, _, []) => if n.depth ≤ Nested.depthLimit ∧ n.pattern.fits then some n.pattern else none
  | _ => none

end DataModel.Pattern

import DataModel.Pattern
import DataModel.Pattern.Class

/-! A pattern is matched by a machine over characters. At every position of the text all steps are known that some
way of matching has come to, so that no way is followed twice. -/

namespace DataModel

namespace Pattern

/-- Whether the character before a position satisfies a test. -/
def before (text : Array Char) (i : Nat) (test : Char → Bool) : Bool :=
  match i with
  | 0 => false
  | j + 1 =>
    match text[j]? with
    | some c => test c
    | none => false

/-- Whether the character after a position satisfies a test. -/
def after (text : Array Char) (i : Nat) (test : Char → Bool) : Bool :=
  match text[i]? with
  | some c => test c
  | none => false

/-- Whether a character belongs to words. -/
def isWordChar (wide : Bool) (c : Char) : Bool :=
  (wordSet wide).has c.toNat

/-- Whether an assertion holds at a position. -/
def Assertion.holds (text : Array Char) (i : Nat) : Assertion → Bool
  | textStart => i = 0
  | textEnd => i = text.size
  | lineStart => i = 0 || before text i (· = '\n')
  | lineEnd => i = text.size || after text i (· = '\n')
  | lineStartCr =>
    i = 0 || before text i (· = '\n') || (before text i (· = '\r') && !after text i (· = '\n'))
  | lineEndCr =>
    i = text.size || after text i (· = '\r') || (after text i (· = '\n') && !before text i (· = '\r'))
  | boundary w => before text i (isWordChar w) != after text i (isWordChar w)
  | noBoundary w => before text i (isWordChar w) == after text i (isWordChar w)
  | wordStart w => !before text i (isWordChar w) && after text i (isWordChar w)
  | wordEnd w => before text i (isWordChar w) && !after text i (isWordChar w)
  | wordStartHalf w => !before text i (isWordChar w)
  | wordEndHalf w => !after text i (isWordChar w)

end Pattern

namespace Machine

/-- What a machine does at one place: it is done, takes a character and goes on, asserts something
about the position and goes on, or goes on in either of two ways. -/
inductive Step where
  | done
  | letter (c : Char) (next : Nat)
  | oneOf (s : CharSet) (next : Nat)
  | check (a : Pattern.Assertion) (next : Nat)
  | fork (one other : Nat)

/-- Some steps with the one to go on to. Machines are built from their ends. -/
structure Part where
  steps : Array Step
  entry : Nat

/-- One more step before the others. -/
def Part.push : Part → Step → Part
  | ⟨steps, _⟩, step =>
    let place := steps.size
    ⟨steps.push step, place⟩

/-- Some characters before the other steps. -/
def Part.pushText (part : Part) (text : List Char) : Part :=
  text.reverse.foldl (fun part c => part.push (.letter c part.entry)) part

/-- `n` rounds of adding. -/
def rounds (add : Part → Part) : Nat → Part → Part
  | 0, part => part
  | n + 1, part => rounds add n (add part)

/-- A loop that is entered at its fork; the body leads back to it. -/
def loop (add : Part → Part) : Part → Part × Nat
  | ⟨steps, next⟩ =>
    let fork := steps.size
    let ⟨steps, entry⟩ := add ⟨steps.push .done, fork⟩
    (⟨steps.setIfInBounds fork (.fork entry next), fork⟩, entry)

mutual

/-- A pattern before the other steps. -/
def ofPattern : Pattern → Part → Part
  | .empty, part => part
  | .literal t, part => part.pushText t
  | .set s, part => part.push (.oneOf s part.entry)
  | .assertion a, part => part.push (.check a part.entry)
  | .repeated p low high _, part =>
    match high with
    | none =>
      let (looped, body) := loop (ofPattern p) part
      if low = 0 then looped else rounds (ofPattern p) (low - 1) ⟨looped.steps, body⟩
    | some h =>
      let skip := part.entry
      let optional (part : Part) : Part :=
        let body := ofPattern p part
        body.push (.fork body.entry skip)
      rounds (ofPattern p) low (rounds optional (h - low) part)
  | .group _ p, part => ofPattern p part
  | .seq ps, part => ofSeq ps part
  | .alt ps, part =>
    let (steps, entries) := ofAlt ps part.entry part.steps
    entries.foldl (fun part entry => part.push (.fork entry part.entry)) ⟨steps, entries.headD part.entry⟩

/-- Patterns one after the other before the other steps. -/
def ofSeq : List Pattern → Part → Part
  | [], part => part
  | p :: ps, part => ofPattern p (ofSeq ps part)

/-- Branches that all go on to one step, and the steps to enter them at. -/
def ofAlt : List Pattern → Nat → Array Step → Array Step × List Nat
  | [], _, steps => (steps, [])
  | p :: ps, next, steps =>
    let branch := ofPattern p ⟨steps, next⟩
    let (steps, entries) := ofAlt ps next branch.steps
    (steps, branch.entry :: entries)

end

/-- Go on from some steps as far as that takes no character. For every step `marks` holds one more
than the last position at which it was come to; given back are the steps that wait for a character, or
`none` when the machine is done. Every step is looked at once for each position, so `fuel` does not run
out. -/
def spread (steps : Array Step) (text : Array Char) (i : Nat) :
    Nat → List Nat → Array Nat → List Nat → Option (Array Nat × List Nat)
  | 0, _, marks, waiting => some (marks, waiting)
  | _ + 1, [], marks, waiting => some (marks, waiting)
  | fuel + 1, n :: stack, marks, waiting =>
    if marks[n]? = some (i + 1) then spread steps text i fuel stack marks waiting
    else
      let marks := marks.setIfInBounds n (i + 1)
      match steps[n]? with
      | none => spread steps text i fuel stack marks waiting
      | some .done => none
      | some (.letter _ _) | some (.oneOf _ _) => spread steps text i fuel stack marks (n :: waiting)
      | some (.check a next) =>
        spread steps text i fuel (if a.holds text i then next :: stack else stack) marks waiting
      | some (.fork one other) => spread steps text i fuel (one :: other :: stack) marks waiting

/-- Where a waiting step goes on to when it takes a character. -/
def take? (steps : Array Step) (c : Char) (n : Nat) : Option Nat :=
  match steps[n]? with
  | some (.letter d next) => if d = c then some next else none
  | some (.oneOf s next) => if s.has c.toNat then some next else none
  | _ => none

/-- Whether a machine is done at some position from `i` on. It may start anew at every position. -/
def run (steps : Array Step) (start : Nat) (text : Array Char) :
    List Char → Nat → List Nat → Array Nat → Bool
  | rest, i, stack, marks =>
    match spread steps text i (2 * steps.size + stack.length + 2) (start :: stack) marks [] with
    | none => true
    | some (marks, waiting) =>
      match rest with
      | [] => false
      | c :: rest => run steps start text rest (i + 1) (waiting.filterMap (take? steps c)) marks

end Machine

/-- Whether some part of a text matches. -/
def Pattern.matchesIn (p : Pattern) (s : String) : Bool :=
  let machine := Machine.ofPattern p ⟨#[.done], 0⟩
  let text := s.toList
  Machine.run machine.steps machine.entry text.toArray text 0 [] (Array.replicate machine.steps.size 0)

end DataModel

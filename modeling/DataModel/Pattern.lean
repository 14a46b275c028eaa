import DataModel.CharSet

/-!
# Patterns

Regular expressions over characters, with assertions about a position. Which of several ways of
matching is preferred does not matter for whether there is one; it is kept because two patterns that
differ in it are not the same.

Patterns are built in a simple form: neighbouring characters are one literal, sequences and choices
are not nested in themselves, a choice between sets is a set, and what all branches of a choice start
with stands in front of it.
-/

namespace DataModel

/-- What may be asserted about a position between characters. Words are made of the word characters
of every script when they are `wide`, else of the ASCII ones. -/
inductive Pattern.Assertion where
  | textStart
  | textEnd
  | lineStart
  | lineEnd
  /-- Line boundaries where a carriage return ends a line too. -/
  | lineStartCr
  | lineEndCr
  | boundary (wide : Bool)
  | noBoundary (wide : Bool)
  | wordStart (wide : Bool)
  | wordEnd (wide : Bool)
  | wordStartHalf (wide : Bool)
  | wordEndHalf (wide : Bool)
deriving DecidableEq, Repr

/-- A regular expression. -/
inductive Pattern where
  | empty
  /-- Some characters one after the other. -/
  | literal (text : List Char)
  | set (s : CharSet)
  | assertion (a : Pattern.Assertion)
  /-- From `low` to `high` times, without a limit when there is none; `lazy` when fewer times are
  preferred. -/
  | repeated (p : Pattern) (low : Nat) (high : Option Nat) (lazy : Bool)
  /-- A group that is remembered under a number. -/
  | group (number : Nat) (p : Pattern)
  | seq (ps : List Pattern)
  | alt (ps : List Pattern)

namespace Pattern

mutual

/-- Whether two patterns are written alike. -/
def same : Pattern → Pattern → Bool
  | empty, empty => true
  | literal s, literal t => s = t
  | set s, set t => s = t
  | assertion a, assertion b => a = b
  | repeated p low high lazy, repeated q low' high' lazy' =>
    low = low' && high = high' && lazy = lazy' && same p q
  | group n p, group m q => n = m && same p q
  | seq ps, seq qs => sameAll ps qs
  | alt ps, alt qs => sameAll ps qs
  | _, _ => false

/-- Whether the patterns of two lists are written alike. -/
def sameAll : List Pattern → List Pattern → Bool
  | [], [] => true
  | p :: ps, q :: qs => same p q && sameAll ps qs
  | _, _ => false

end

mutual

/-- The least number of characters of a match; `none` where a part in the way has no match. -/
def leastLength : Pattern → Option Nat
  | empty => some 0
  | literal t => some t.length
  | set s => if s.isEmpty then none else some 1
  | assertion _ => some 0
  | repeated p low _ _ => (leastLength p).map (· * low)
  | group _ p => leastLength p
  | seq ps => leastOfSeq ps
  | alt ps => leastOfAlt ps

/-- The least length of patterns one after the other. -/
def leastOfSeq : List Pattern → Option Nat
  | [] => some 0
  | p :: ps => do some ((← leastLength p) + (← leastOfSeq ps))

/-- The least length of one of some patterns, all of which have matches. -/
def leastOfAlt : List Pattern → Option Nat
  | [] => none
  | [p] => leastLength p
  | p :: ps => do some (min (← leastLength p) (← leastOfAlt ps))

end

mutual

/-- Whether a pattern is such that no match has a character. -/
def takesNothing : Pattern → Bool
  | empty => true
  | literal _ => false
  | set _ => false
  | assertion _ => true
  | repeated p _ _ _ => takesNothing p
  | group _ p => takesNothing p
  | seq ps => allTakeNothing ps
  | alt ps => allTakeNothing ps

/-- Whether all patterns are such that no match has a character. -/
def allTakeNothing : List Pattern → Bool
  | [] => true
  | p :: ps => takesNothing p && allTakeNothing ps

end

/-- One character of a set. -/
def ofSet (s : CharSet) : Pattern :=
  match s.only? with
  | some c => literal [c]
  | none => set s

/-- A repeated pattern. What takes nothing is repeated once at most. -/
def times (p : Pattern) (low : Nat) (high : Option Nat) (lazy : Bool) : Pattern :=
  let low' := if p.takesNothing then min low 1 else low
  let high' := if p.takesNothing then some (min (high.getD 1) 1) else high
  if high' = some 0 then empty
  else if low' = 1 ∧ high' = some 1 then p
  else repeated p low' high' lazy

/-- The parts of a pattern as a member of a sequence. -/
def parts : Pattern → List Pattern
  | empty => []
  | seq ps => ps
  | p => [p]

/-- Neighbouring literals made one. -/
def joinLiterals : List Pattern → List Pattern
  | [] => []
  | literal s :: ps =>
    match joinLiterals ps with
    | literal t :: qs => literal (s ++ t) :: qs
    | qs => literal s :: qs
  | p :: ps => p :: joinLiterals ps

/-- Patterns one after the other. -/
def sequence (ps : List Pattern) : Pattern :=
  match joinLiterals (ps.flatMap parts) with
  | [] => empty
  | [p] => p
  | qs => seq qs

/-- The parts of a pattern as a branch of a choice. -/
def branches : Pattern → List Pattern
  | alt ps => ps
  | p => [p]

/-- The set of a literal of one character. -/
def letter? : Pattern → Option CharSet
  | literal [c] => some (.single c)
  | _ => none

/-- The set of a pattern that is one. -/
def set? : Pattern → Option CharSet
  | set s => some s
  | _ => none

/-- The parts of a sequence. -/
def seq? : Pattern → Option (List Pattern)
  | seq ps => some ps
  | _ => none

/-- How many patterns at the start of two lists are written alike. -/
def commonLength : List Pattern → List Pattern → Nat
  | p :: ps, q :: qs => if p.same q then commonLength ps qs + 1 else 0
  | _, _ => 0

/-- How many parts all branches start with, if they are sequences. -/
def liftable (ps : List Pattern) : Nat :=
  match ps.mapM seq? with
  | some (first :: others) => others.foldl (fun n qs => min n (commonLength first qs)) first.length
  | _ => 0

/-- The choice between branches, where a common start is lifted at most `n` times. -/
def choiceWithin (n : Nat) (ps : List Pattern) : Pattern :=
  match ps.flatMap branches with
  | [] => set .empty
  | [p] => p
  | qs =>
    match qs.mapM letter?, qs.mapM set? with
    | some sets, _ => ofSet (.unions sets)
    | none, some sets => ofSet (.unions sets)
    | none, none =>
      match n, liftable qs with
      | _, 0 => alt qs
      | 0, _ => alt qs
      | n + 1, common =>
        let start := (qs.head?.map parts).getD []
        sequence (start.take common ++ [choiceWithin n (qs.map fun q => sequence (q.parts.drop common))])

/-- The choice between branches. -/
def choice (ps : List Pattern) : Pattern :=
  choiceWithin ((ps.flatMap branches).length + 1) ps

end Pattern

end DataModel

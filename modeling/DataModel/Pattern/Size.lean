import DataModel.Pattern
import DataModel.Pattern.Octets
import Std.Data.HashMap

/-!
# Sizes of patterns

A pattern is matched by machines over the octets of a text, one that reads forward and remembers
groups and one that reads backward and does not. A machine has states of a fixed size; a state that
reads one of several octet ranges holds a link for each, a state that forks one for each way it leads
to. A pattern whose machines take more than the limit is refused.

The states of a set of characters share what its octet sequences have in common. A forward machine
shares the ends of sequences, a backward machine their starts, as far as a table of limited size
remembers them: an entry is found in the place that a hash of it gives, and pushes out what was there.
-/

namespace DataModel

/-- What a machine takes: its states, and the octets of the links in them. -/
structure Size where
  states : Nat
  links : Nat

namespace Size

/-- Nothing. -/
def zero : Size :=
  ⟨0, 0⟩

/-- The octets of one state. -/
def stateOctets : Nat :=
  32

/-- The octets of a link of a fork. -/
def wayOctets : Nat :=
  4

/-- The octets of a link of a state that reads. -/
def rangeOctets : Nat :=
  8

/-- What a machine may take. -/
def limit : Nat :=
  10485760

/-- What a machine takes in octets. -/
def octets (s : Size) : Nat :=
  s.states * stateOctets + s.links

/-- Whether a machine takes more than it may. -/
def exceeds (s : Size) : Bool :=
  limit < s.octets

/-- Some more states. -/
def plus (s : Size) (n : Nat) : Size :=
  ⟨s.states + n, s.links⟩

/-- Some more ways out of forks. -/
def ways (s : Size) (n : Nat) : Size :=
  ⟨s.states, s.links + n * wayOctets⟩

/-- One more state that reads one of `n` octet ranges. -/
def reader (s : Size) (n : Nat) : Size :=
  ⟨s.states + 1, s.links + n * rangeOctets⟩

/-- What `n` rounds of adding take; it stops when there is too much. -/
def rounds (add : Size → Size) : Nat → Size → Size
  | 0, s => s
  | n + 1, s => if s.exceeds then s else rounds add n (add s)

end Size

namespace Pattern

/-- The direction in which a machine reads. -/
inductive Direction where
  | forward
  | backward
deriving DecidableEq, Repr

/-- Hashing as in the tables of shared states: one factor after the other. -/
def hashed (numbers : List Nat) : Nat :=
  (numbers.foldl (fun (h : UInt64) n => (h ^^^ UInt64.ofNat n) * 1099511628211)
    14695981039346656037).toNat

/-- A table that remembers one entry in every place. -/
abbrev Table (α : Type) := Std.HashMap Nat (α × Nat)

/-- The state remembered for a key. -/
def Table.find? {α : Type} [DecidableEq α] (t : Table α) (place : Nat) (key : α) : Option Nat :=
  match t.get? place with
  | some (k, state) => if k = key then some state else none
  | none => none

/-- A link of a state that reads: an octet range and the state it leads to. -/
structure Link where
  range : Octets.Range
  target : Nat
deriving DecidableEq

/-- A state that is not yet complete: its links so far, and the range of the last one, whose target
is not known. -/
structure Unfinished where
  links : List Link
  last : Octets.Range

/-- The links of a state whose last one leads to `target`. -/
def Unfinished.complete (u : Unfinished) (target : Nat) : List Link :=
  u.links ++ [⟨u.last, target⟩]

/-- A forward machine of a set while it grows: its size and the table of its states. -/
structure Growth where
  size : Size
  table : Table (List Link)

/-- The places of the table of a forward machine. -/
def endPlaces : Nat :=
  10000

/-- The state with some links: a remembered one, or a new one. -/
def Growth.stateOf (g : Growth) (links : List Link) : Nat × Growth :=
  let place := hashed (links.flatMap fun l => [l.range.low, l.range.high, l.target]) % endPlaces
  match g.table.find? place links with
  | some state => (state, g)
  | none =>
    let state := g.size.states
    (state, ⟨g.size.reader links.length, g.table.insert place (links, state)⟩)

/-- The state of the first of some unfinished states, each of which leads to the next one and the last
one to `goal`. -/
def Growth.finish (g : Growth) (goal : Nat) : List Unfinished → Nat × Growth
  | [] => (goal, g)
  | u :: us =>
    let (target, g) := finish g goal us
    g.stateOf (u.complete target)

/-- The unfinished states of a sequence on its own. -/
def unfinishedOf (sequence : List Octets.Range) : List Unfinished :=
  sequence.map fun r => ⟨[], r⟩

/-- Add a sequence. States are finished from where it leaves the sequence before. -/
def Growth.add (g : Growth) (goal : Nat) :
    List Unfinished → List Octets.Range → List Unfinished × Growth
  | u :: us, r :: rs =>
    if u.last = r then
      let (rest, g) := add g goal us rs
      (u :: rest, g)
    else
      let (target, g) := g.finish goal us
      (⟨u.complete target, r⟩ :: unfinishedOf rs, g)
  | us, rs => (us ++ unfinishedOf rs, g)

/-- The size of a forward machine with a set added. -/
def forwardSize (sequences : List (List Octets.Range)) (s : Size) : Size :=
  let goal := s.states
  let (unfinished, g) := sequences.foldl (fun (us, g) sequence => Growth.add g goal us sequence)
    (([] : List Unfinished), (⟨s.plus 1, ∅⟩ : Growth))
  (g.finish goal unfinished).2.size

/-- The places of the table of a backward machine. -/
def startPlaces : Nat :=
  1000

/-- One octet range in front of a state of a backward machine: the state there, which is a remembered
one or a new one. -/
def prepend (found : Nat × Size × Table (Nat × Octets.Range)) (r : Octets.Range) :
    Nat × Size × Table (Nat × Octets.Range) :=
  let (state, size, table) := found
  let place := hashed [state, r.low, r.high] % startPlaces
  match table.find? place (state, r) with
  | some earlier => (earlier, size, table)
  | none => (size.states, size.plus 1, table.insert place ((state, r), size.states))

/-- The size of a backward machine with a set added. -/
def backwardSize (sequences : List (List Octets.Range)) (s : Size) : Size :=
  let goal := s.states + 1
  (sequences.foldl (fun (size, table) sequence =>
    let (_, size, table) := sequence.foldl prepend (goal, size, table)
    (size.ways 1, table)) (s.plus 2, (∅ : Table (Nat × Octets.Range)))).1

/-- The size with a set added. One state reads all ranges of a set of ASCII characters. -/
def setSize (d : Direction) (chars : CharSet) (s : Size) : Size :=
  if chars.isAscii then (s.plus 1).reader chars.spans.size
  else
    match d with
    | .forward => forwardSize (Octets.sequences chars) s
    | .backward => backwardSize (Octets.sequences chars) s

/-- Texts that begin with the same octet, as what follows it in each. -/
abbrev Sharing := List (Nat × List (List Nat))

/-- Add a text to those that begin with its first octet. -/
def Sharing.add (sharing : Sharing) (octet : Nat) (rest : List Nat) : Sharing :=
  match sharing with
  | [] => [(octet, [rest])]
  | (o, rests) :: more =>
    if o = octet then (o, rests ++ [rest]) :: more else (o, rests) :: add more octet rest

/-- Texts by their first octets. An empty text closes what is before it: later texts do not share with
earlier ones. -/
def shared (texts : List (List Nat)) : List Sharing :=
  let step (acc : List Sharing × Sharing) (text : List Nat) : List Sharing × Sharing :=
    match text with
    | [] =>
      if acc.2.isEmpty && !acc.1.isEmpty && acc.1.all List.isEmpty then acc
      else (acc.1 ++ [acc.2], [])
    | octet :: rest => (acc.1, acc.2.add octet rest)
  let (closed, last) := texts.foldl step ([], [])
  closed ++ [last]

/-- The size with a choice between texts added that share their starts, apart from the state where all
of them end. Texts are followed for `n` octets. -/
def sharedSize : Nat → List (List Nat) → Size → Size
  | 0, _, s => s
  | n + 1, texts, s =>
    let chunks := shared texts
    let full := chunks.filter fun chunk => !chunk.isEmpty
    let s := full.foldl (fun s chunk => if chunk.length = 1 then s.plus 1 else s.reader chunk.length) s
    let s := (s.plus 1).ways (full.length + (chunks.length - 1))
    (full.flatMap id).foldl (fun s e => if e.2.all List.isEmpty then s else sharedSize n e.2 s) s

/-- The texts of patterns that are all literals, if there are two at least. -/
def literals? (ps : List Pattern) : Option (List (List Char)) :=
  if ps.length < 2 then none
  else ps.mapM fun p =>
    match p with
    | literal t => some t
    | _ => none

/-- The size with a choice between literals added. -/
def literalsSize (d : Direction) (texts : List (List Char)) (s : Size) : Size :=
  let octets := texts.map fun t =>
    match d with
    | .forward => Octets.ofText t
    | .backward => (Octets.ofText t).reverse
  sharedSize (octets.foldl (fun n t => max n t.length) 0 + 1) octets (s.plus 1)

/-- Whether a repetition without an upper bound can go round in a single fork. -/
def isPlainLoop (p : Pattern) : Bool :=
  match p.leastLength with
  | some n => 0 < n
  | none => false

mutual

/-- Whether the machine of a pattern ends in a fork, to which the way on has to be added. -/
def endsInFork (d : Direction) : Pattern → Bool
  | repeated p low high _ =>
    match high with
    | none => low ≠ 0 || p.isPlainLoop
    | some h => low = h && endsInFork d p
  | group _ p => d = .backward && endsInFork d p
  | seq ps =>
    match d with
    | .forward => lastEndsInFork d ps
    | .backward => firstEndsInFork d ps
  | _ => false

/-- Whether the machine of the last of some patterns ends in a fork. -/
def lastEndsInFork (d : Direction) : List Pattern → Bool
  | [] => false
  | [p] => endsInFork d p
  | _ :: ps => lastEndsInFork d ps

/-- Whether the machine of the first of some patterns ends in a fork. -/
def firstEndsInFork (d : Direction) : List Pattern → Bool
  | [] => false
  | p :: _ => endsInFork d p

end

/-- The way on from the end of a pattern. -/
def onward (d : Direction) (p : Pattern) (s : Size) : Size :=
  if p.endsInFork d then s.ways 1 else s

/-- The size with `n` copies of a pattern added one after the other, given what one copy adds. -/
def copies (d : Direction) (p : Pattern) (add : Size → Size) (n : Nat) (s : Size) : Size :=
  match n with
  | 0 => s.plus 1
  | n + 1 => Size.rounds (fun s => add (onward d p s)) n (add s)

mutual

/-- The size with a pattern added. -/
def size (d : Direction) : Pattern → Size → Size
  | empty, s => s.plus 1
  | literal t, s => s.plus (Octets.ofText t).length
  | set chars, s => setSize d chars s
  | assertion _, s => s.plus 1
  | repeated p low high _, s =>
    match low, high with
    | 0, some 1 => onward d p (((size d p (s.plus 1)).plus 1).ways 2)
    | 0, none =>
      if p.isPlainLoop then onward d p ((size d p (s.plus 1)).ways 1)
      else ((onward d p (size d p s)).plus 3).ways 4
    | 1, none => (onward d p ((size d p s).plus 1)).ways 1
    | n, none =>
      let s := onward d p (copies d p (size d p) (n - 1) s)
      ((onward d p (size d p s)).plus 1).ways 1
    | n, some h =>
      let s := copies d p (size d p) n s
      if n = h then s
      else
        let start := if n = 0 then s else onward d p s
        Size.rounds (fun s => (onward d p (size d p (s.plus 1))).ways 2) (h - n) (start.plus 1)
  | group _ p, s =>
    match d with
    | .forward => onward d p ((size d p (s.plus 1)).plus 1)
    | .backward => size d p s
  | seq ps, s =>
    match d with
    | .forward => sizeForward d ps s
    | .backward => sizeBackward d ps s
  | alt ps, s =>
    match literals? ps with
    | some texts => literalsSize d texts s
    | none => sizeOfBranches d 0 ps s

/-- The size with patterns added from the first to the last. -/
def sizeForward (d : Direction) : List Pattern → Size → Size
  | [], s => s
  | [p], s => size d p s
  | p :: ps, s => sizeForward d ps (onward d p (size d p s))

/-- The size with patterns added from the last to the first. -/
def sizeBackward (d : Direction) : List Pattern → Size → Size
  | [], s => s
  | p :: ps, s =>
    let s := sizeBackward d ps s
    size d p (if firstEndsInFork d ps then s.ways 1 else s)

/-- The size with branches added. The fork before them and the state where they meet come after the
second one. -/
def sizeOfBranches (d : Direction) (index : Nat) : List Pattern → Size → Size
  | [], s => s
  | p :: ps, s =>
    let s := (onward d p (size d p s)).ways 1
    sizeOfBranches d (index + 1) ps (if index = 1 then s.plus 2 else s)

end

mutual

/-- Whether every match of a pattern begins by asserting `a`. -/
def opensWith (a : Assertion) : Pattern → Bool
  | assertion b => a = b
  | repeated p low _ _ => low ≠ 0 && opensWith a p
  | group _ p => opensWith a p
  | seq ps => seqOpensWith a ps
  | alt ps => allOpenWith a ps
  | _ => false

/-- Whether patterns one after the other begin by asserting `a`. -/
def seqOpensWith (a : Assertion) : List Pattern → Bool
  | [] => false
  | p :: ps => opensWith a p || (p.takesNothing && seqOpensWith a ps)

/-- Whether all patterns begin by asserting `a`. -/
def allOpenWith (a : Assertion) : List Pattern → Bool
  | [] => true
  | p :: ps => opensWith a p && allOpenWith a ps

end

mutual

/-- Whether every match of a pattern ends by asserting `a`. -/
def closesWith (a : Assertion) : Pattern → Bool
  | assertion b => a = b
  | repeated p low _ _ => low ≠ 0 && closesWith a p
  | group _ p => closesWith a p
  | seq ps => seqClosesWith a ps
  | alt ps => allCloseWith a ps
  | _ => false

/-- Whether patterns one after the other end by asserting `a`. -/
def seqClosesWith (a : Assertion) : List Pattern → Bool
  | [] => false
  | p :: ps => seqClosesWith a ps || (allTakeNothing ps && closesWith a p)

/-- Whether all patterns end by asserting `a`. -/
def allCloseWith (a : Assertion) : List Pattern → Bool
  | [] => true
  | p :: ps => closesWith a p && allCloseWith a ps

end

/-- What stands in front of the machine of a pattern: one state where matches begin at an end of the
text, else a loop over any octets. -/
def frontSize (fixed : Bool) : Size :=
  if fixed then Size.zero.plus 1 else ((Size.zero.plus 2).reader 1).ways 2

/-- The size of the forward machine. The whole match is remembered as group zero. -/
def forwardMachine (p : Pattern) : Size :=
  (size .forward (group 0 p) (frontSize (p.opensWith .textStart))).plus 1

/-- The size of the backward machine. -/
def backwardMachine (p : Pattern) : Size :=
  (onward .backward p (size .backward p (frontSize (p.closesWith .textEnd)))).plus 1

/-- How many literals are looked up in a table of words. -/
def wordListLength : Nat :=
  3000

/-- Whether a pattern is a choice between so many literals that a table of words, which has no limit,
takes the place of the machines. -/
def isWordList : Pattern → Bool
  | alt ps => wordListLength ≤ ps.length && (literals? ps).isSome
  | _ => false

/-- Whether both machines of a pattern are within the limit, if it needs them. -/
def fits (p : Pattern) : Bool :=
  p.isWordList || (!p.forwardMachine.exceeds && !p.backwardMachine.exceeds)

end Pattern

end DataModel

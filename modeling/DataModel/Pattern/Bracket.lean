import DataModel.Pattern.Escape

/-! Sets of characters between brackets: characters, ranges, classes and further brackets, joined by `&&` (both),
`--` (without) and `~~` (exactly one). -/

namespace DataModel.Pattern.Bracket

/-- How the two sides of an operator are joined. -/
inductive Operation where
  | both
  | without
  | exactlyOne

/-- The set of two sides; each side has case ignored before. -/
def Operation.apply (m : Mode) (op : Operation) (s t : CharSet) : CharSet :=
  let s := m.fold s
  let t := m.fold t
  match op with
  | both => s.inter t
  | without => s.difference t
  | exactlyOne => s.symmetric t

/-- The items of one side of an operator: what they hold, how many they are, and the depth of the
deepest. -/
structure Side where
  set : CharSet
  count : Nat
  deepest : Nat

/-- A side without items. -/
def Side.empty : Side :=
  ⟨.empty, 0, 0⟩

/-- One more item. -/
def Side.add (side : Side) (s : CharSet) (depth : Nat) : Side :=
  ⟨side.set.union s, side.count + 1, max side.deepest depth⟩

/-- A set with the depth to which its parts are nested. -/
structure Nested where
  set : CharSet
  depth : Nat

/-- A side as a whole. Several items together are one level deeper than each. -/
def Side.whole (side : Side) : Nested :=
  ⟨side.set, if 2 ≤ side.count then side.deepest + 1 else side.deepest⟩

/-- Join what stands before an operator, if there is one, with what stands after it. -/
def join (m : Mode) (pending : Option (Operation × Nested)) (side : Side) : Nested :=
  let right := side.whole
  match pending with
  | some (op, left) => ⟨op.apply m left.set right.set, max left.depth right.depth + 1⟩
  | none => right

/-- An ASCII class by name, after its opening bracket: whether it is turned around, the class, and
the rest of the text. -/
def asciiClass? (cs : List Char) : Option (Bool × CharSet × List Char) :=
  match cs with
  | ':' :: cs =>
    let (negated, cs) :=
      match cs with
      | '^' :: rest => (true, rest)
      | _ => (false, cs)
    let name := cs.takeWhile (· ≠ ':')
    match cs.drop name.length with
    | ':' :: ']' :: rest => (asciiClasses.lookup (String.ofList name)).map fun s => (negated, s, rest)
    | _ => none
  | _ => none

/-- One primitive of a bracketed set. -/
def primitive? (m : Mode) (cs : List Char) : Option (Primitive × List Char) :=
  match cs with
  | [] => none
  | '\\' :: rest => Escape.read? m rest
  | c :: rest => some (.literal c false, rest)

/-- A character of a set, if the mode can hold it. -/
def character? (m : Mode) : Primitive → Option Char
  | .literal c _ => if ¬ m.unicode ∧ 127 < c.toNat then none else some c
  | _ => none

/-- A primitive as a set. Assertions are not in sets. -/
def primitiveSet? (m : Mode) (p : Primitive) : Option CharSet :=
  match p with
  | .set s => some s
  | .assertion _ => none
  | p => (character? m p).map .single

/-- The character that decides what a hyphen in front of it means. Where blanks do not count it is the
first one that is no blank; the sign that starts a comment is passed over, its text is not. -/
def deciding? (m : Mode) (cs : List Char) : Option Char :=
  if m.spaced then
    match Blank.dropLeading cs with
    | '#' :: cs => (Blank.dropLeading cs).head?
    | cs => cs.head?
  else cs.head?

/-- Whether a hyphen with the text after it is the sign of a range. Before a closing bracket or another
hyphen it is not. -/
def isRangeSign (m : Mode) (cs : List Char) : Bool :=
  deciding? m cs ≠ some ']' && deciding? m cs ≠ some '-'

/-- A primitive, or a range between two of them. -/
def range? (m : Mode) (cs : List Char) : Option (CharSet × List Char) := do
  let (first, rest) ← primitive? m cs
  match m.skip rest with
  | [] => none
  | '-' :: more =>
    if isRangeSign m more then
      let (last, rest) ← primitive? m (m.skip more)
      let low ← character? m first
      let high ← character? m last
      if low ≤ high then some (.between low.toNat high.toNat, rest) else none
    else some (← primitiveSet? m first, '-' :: more)
  | rest => some (← primitiveSet? m first, rest)

/-- How many hyphens there are in front, and the rest. At the start of a set they stand for themselves. -/
def leadingHyphens (m : Mode) : Nat → List Char → Nat × List Char
  | 0, cs => (0, cs)
  | fuel + 1, cs =>
    match cs with
    | '-' :: rest =>
      let (n, rest) := leadingHyphens m fuel (m.skip rest)
      (n + 1, rest)
    | _ => (0, cs)

/-- The start of a set after its bracket: whether it is turned around, and the characters that stand
for themselves only here. -/
def start (m : Mode) (cs : List Char) : Bool × Side × List Char :=
  let cs := m.skip cs
  let (negated, cs) :=
    match cs with
    | '^' :: rest => (true, m.skip rest)
    | _ => (false, cs)
  match cs with
  | '-' :: rest =>
    let (more, rest) := leadingHyphens m rest.length (m.skip rest)
    (negated, ⟨.single '-', more + 1, 0⟩, rest)
  | ']' :: rest => (negated, ⟨.single ']', 1, 0⟩, rest)
  | rest => (negated, .empty, rest)

/-- The items of a set up to its closing bracket: the set with its depth, and the rest of the text. -/
def items? (m : Mode) :
    Nat → Option (Operation × Nested) → Side → List Char → Option (Nested × List Char)
  | 0, _, _, _ => none
  | fuel + 1, pending, side, cs =>
    match m.skip cs with
    | [] => none
    | ']' :: rest => some (join m pending side, rest)
    | '[' :: rest =>
      match asciiClass? rest with
      | some (negated, s, rest) =>
        match m.closed? negated s with
        | some s => items? m fuel pending (side.add s 0) rest
        | none => none
      | none =>
        let (negated, initial, rest) := start m rest
        match items? m fuel none initial rest with
        | some (inner, rest) =>
          match m.closed? negated inner.set with
          | some s => items? m fuel pending (side.add s (inner.depth + 1)) rest
          | none => none
        | none => none
    | '&' :: '&' :: rest => items? m fuel (some (.both, join m pending side)) .empty rest
    | '-' :: '-' :: rest => items? m fuel (some (.without, join m pending side)) .empty rest
    | '~' :: '~' :: rest => items? m fuel (some (.exactlyOne, join m pending side)) .empty rest
    | rest =>
      match range? m rest with
      | some (s, rest) => items? m fuel pending (side.add s 0) rest
      | none => none

/-- The set after an opening bracket, its depth, and the rest of the text. -/
def read? (m : Mode) (cs : List Char) : Option (CharSet × Nat × List Char) := do
  let (negated, initial, rest) := start m cs
  let (inner, rest) ← items? m (rest.length + 1) none initial rest
  some (← m.closed? negated inner.set, inner.depth + 1, rest)

end DataModel.Pattern.Bracket

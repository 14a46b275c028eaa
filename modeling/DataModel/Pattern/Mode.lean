import DataModel.Pattern
import DataModel.Pattern.Class
import DataModel.Unicode.Folding

/-! The settings that letters such as `i` and `m` switch on and off inside a pattern, and what plain characters,
dots and anchors stand for under them. -/

namespace DataModel.Pattern

/-- The settings in force at a place of a pattern. -/
structure Mode where
  ignoreCase : Bool := false
  multiLine : Bool := false
  dotAll : Bool := false
  swapGreed : Bool := false
  unicode : Bool := true
  spaced : Bool := false
  returnEndsLine : Bool := false

namespace Mode

/-- Switch the setting of a letter. -/
def switch? (m : Mode) (letter : Char) (on : Bool) : Option Mode :=
  match letter with
  | 'i' => some { m with ignoreCase := on }
  | 'm' => some { m with multiLine := on }
  | 's' => some { m with dotAll := on }
  | 'U' => some { m with swapGreed := on }
  | 'u' => some { m with unicode := on }
  | 'x' => some { m with spaced := on }
  | 'R' => some { m with returnEndsLine := on }
  | _ => none

/-- Drop white space and comments in front; within a comment all is dropped up to the line's end. -/
def skipBlanks : Bool → List Char → List Char
  | _, [] => []
  | true, c :: cs => skipBlanks (c ≠ '\n') cs
  | false, c :: cs =>
    if Blank.isBlank c then skipBlanks false cs
    else if c = '#' then skipBlanks true cs
    else c :: cs

/-- Drop white space and comments in front when they do not count. -/
def skip (m : Mode) (cs : List Char) : List Char :=
  if m.spaced then skipBlanks false cs else cs

/-- A set with the characters that differ in case only, when case is ignored. Without the letters of
every script only the case of ASCII letters is. -/
def fold (m : Mode) (s : CharSet) : CharSet :=
  if ¬ m.ignoreCase then s
  else if m.unicode then s.folded
  else s.union (asciiAll.inter (asciiAll.inter s).folded)

/-- A finished set: case is ignored first, then the set is turned around. Without the characters of
every script it may have ASCII characters only. -/
def closed? (m : Mode) (negated : Bool) (s : CharSet) : Option CharSet :=
  let s := m.fold s
  let s := if negated then s.compl else s
  if m.unicode || s.isAscii then some s else none

/-- What one character stands for; `octet` when it was written as two hexadecimal digits. -/
def literal? (m : Mode) (c : Char) (octet : Bool) : Option Pattern :=
  if ¬ m.unicode ∧ octet ∧ 127 < c.toNat then none else some (.ofSet (m.fold (.single c)))

/-- What a dot stands for. -/
def dot? (m : Mode) : Option CharSet :=
  if ¬ m.unicode then none
  else if m.dotAll then some .all
  else if m.returnEndsLine then some (CharSet.ofText "a d").compl
  else some (CharSet.ofText "a").compl

/-- What `^` asserts. -/
def lineStart (m : Mode) : Assertion :=
  if m.multiLine then (if m.returnEndsLine then .lineStartCr else .lineStart) else .textStart

/-- What `$` asserts. -/
def lineEnd (m : Mode) : Assertion :=
  if m.multiLine then (if m.returnEndsLine then .lineEndCr else .lineEnd) else .textEnd

end Mode

end DataModel.Pattern

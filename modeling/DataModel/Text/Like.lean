/-!
# LIKE patterns

A pattern in which `%` stands for any run of characters, `_` for one character and every other
character for itself. A run is first taken to be empty and then longer and longer, until what
stands before the next `%` fits; a run that fits is not tried again. A character of the text that is
a `%` itself is met by a `%` of the pattern as by any other character.
-/

namespace DataModel.Like

/-- What comes of laying a pattern at the start of a text. -/
inductive Fit (p : List Char) where
  /-- The text is used up; the answer. -/
  | done (isMatch : Bool)
  /-- A character does not fit. -/
  | clash
  /-- A run begins: the pattern after it and the text that is left. -/
  | run (rest : List Char) (shorter : rest.length < p.length) (text : List Char)

/-- The same outcome for a longer pattern. -/
def Fit.weaken {p : List Char} (d : Char) : Fit p → Fit (d :: p)
  | done b => done b
  | clash => clash
  | run rest h text => run rest (Nat.lt_succ_of_lt h) text

/-- Lay a pattern at the start of a text, up to its first run. -/
def fit : (p : List Char) → List Char → Fit p
  | p, [] => .done (p.all (· = '%'))
  | [], _ :: _ => .clash
  | d :: p, c :: text =>
    if d = '_' ∨ d = c then (fit p text).weaken d
    else if d = '%' then .run p (Nat.lt_succ_self _) (c :: text)
    else .clash

/-- Whether a pattern fits somewhere in a text, as it must after a run. -/
def afterRun (p text : List Char) : Bool :=
  match fit p text with
  | .done b => b
  | .run rest _ text => afterRun rest text
  | .clash =>
    match text with
    | [] => false
    | _ :: text => afterRun p text
termination_by (p.length, text.length)

/-- Whether a text matches a pattern. -/
def isMatch (text pattern : String) : Bool :=
  match fit pattern.toList text.toList with
  | .done b => b
  | .run rest _ text => afterRun rest text
  | .clash => false

end DataModel.Like

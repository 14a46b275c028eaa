import DataModel.Json.Token

/-! A tree is built from tokens with a stack of open lists and objects. What may come next is part of the state,
so a comma is always followed by an item or a member. -/

namespace DataModel.Json

/-- Lists and objects nested deeper than this have no value. -/
def depthLimit : Nat :=
  127

/-- A list or object that is not yet closed, its contents newest first. -/
inductive Open where
  | list (items : List Json)
  /-- The members, the key that waits for its value, and whether every key could be read. -/
  | object (members : List (String × Json)) (key : String) (sound : Bool)

/-- What the next token may be. -/
inductive Want where
  | value
  | itemOrClose
  | keyOrClose
  | key
  | colon
  | commaOrClose
  | nothing (result : Json)

/-- The open lists and objects, innermost first, how many they are, and what may come next. -/
structure Progress where
  opened : List Open
  level : Nat
  want : Want

/-- Hand a finished value to what surrounds it. -/
def Progress.deliver (opened : List Open) (level : Nat) (j : Json) : Progress :=
  match opened with
  | [] => ⟨[], level, .nothing j⟩
  | .list items :: rest => ⟨.list (j :: items) :: rest, level, .commaOrClose⟩
  | .object members key sound :: rest =>
    ⟨.object ((key, j) :: members) key sound :: rest, level, .commaOrClose⟩

/-- Close the innermost list. -/
def Progress.closeList? (p : Progress) : Option Progress :=
  match p.opened with
  | .list items :: rest =>
    some (.deliver rest (p.level - 1) (if depthLimit < p.level then unreadable else arr items.reverse))
  | _ => none

/-- Close the innermost object. -/
def Progress.closeObject? (p : Progress) : Option Progress :=
  match p.opened with
  | .object members _ sound :: rest =>
    some (.deliver rest (p.level - 1)
      (if depthLimit < p.level ∨ !sound then unreadable else obj members.reverse))
  | _ => none

/-- Take a key; its colon must follow. -/
def Progress.takeKey? (p : Progress) (key : Option String) : Option Progress :=
  match p.opened with
  | .object members _ sound :: rest =>
    some ⟨.object members (key.getD "") (sound && key.isSome) :: rest, p.level, .colon⟩
  | _ => none

/-- Start a value. -/
def Progress.start? (p : Progress) : Token → Option Progress
  | .openList => some ⟨.list [] :: p.opened, p.level + 1, .itemOrClose⟩
  | .openObject => some ⟨.object [] "" true :: p.opened, p.level + 1, .keyOrClose⟩
  | .scalar j => some (.deliver p.opened p.level j)
  | .text (some s) => some (.deliver p.opened p.level (str s))
  | .text none => some (.deliver p.opened p.level unreadable)
  | _ => none

/-- Take one token. -/
def Progress.step? (p : Progress) (t : Token) : Option Progress :=
  match p.want, t with
  | .value, t => p.start? t
  | .itemOrClose, .closeList => p.closeList?
  | .itemOrClose, t => p.start? t
  | .keyOrClose, .closeObject => p.closeObject?
  | .keyOrClose, .text k => p.takeKey? k
  | .key, .text k => p.takeKey? k
  | .colon, .colon => some ⟨p.opened, p.level, .value⟩
  | .commaOrClose, .comma =>
    match p.opened with
    | .list _ :: _ => some ⟨p.opened, p.level, .value⟩
    | .object _ _ _ :: _ => some ⟨p.opened, p.level, .key⟩
    | [] => none
  | .commaOrClose, .closeList => p.closeList?
  | .commaOrClose, .closeObject => p.closeObject?
  | _, _ => none

/-- Take all tokens; the tree when nothing is open at the end. -/
def Progress.run? (p : Progress) : List Token → Option Json
  | [] =>
    match p.want with
    | .nothing j => some j
    | _ => none
  | t :: ts =>
    match p.step? t with
    | some p' => run? p' ts
    | none => none

/-- The tree of a list of tokens. -/
def ofTokens? (ts : List Token) : Option Json :=
  Progress.run? ⟨[], 0, .value⟩ ts

/-- The tree of a text; parts that have the form of a value but no value are marked. -/
def parse? (text : String) : Option Json := do
  ofTokens? (← tokens? text.toList)

/-- The tree of a text all of whose parts have a value. -/
def read? (text : String) : Option Json := do
  let j ← parse? text
  if j.readable then some j else none

end DataModel.Json

import DataModel.Password.Hash
import DataModel.Validation

/-! Before a row is written, columns the model does not have are dropped, JSON texts are read, the row is
validated, passwords are hashed and the times of writing are set. -/

namespace DataModel

/-- Whether a row is new or changes one that is there. -/
inductive Writing where
  | insert
  | update
deriving DecidableEq, Repr

/-- What a row takes from outside: the time of writing, the salt of hashes and their cost. -/
structure Surroundings where
  now : String
  salt : List UInt8
  hashCost : Nat

namespace Model

/-- A value as a column of a kind takes it: a JSON text is read, and stays a text when it is none. -/
def taken (kind : Kind) (v : Value) : Value :=
  match kind, v with
  | .json, .text s => (Value.parseSorted? s).getD v
  | _, v => v

/-- The cells of a row under columns of the model, with JSON texts read. -/
def known (m : Model) (row : Record) : Record :=
  row.filterMap fun e => (m.column? e.1).map fun c => (e.1, taken c.kind e.2)

/-- A row without a null primary key. -/
def withoutNullKey (m : Model) (row : Record) : Record :=
  match row.get? m.primaryKey with
  | some .null => row.erase m.primaryKey
  | _ => row

/-- A row with the texts of password columns hashed. -/
def hashed (m : Model) (s : Surroundings) : List Column → Record → Except ModelError Record
  | [], row => .ok row
  | c :: cs, row =>
    if c.isPassword then
      match row.get? c.name with
      | some (.text password) =>
        match PasswordHash.make? s.hashCost s.salt password with
        | some hash => hashed m s cs (row.insert c.name (.text hash))
        | none => .error (.crypt m.name c.name s.hashCost)
      | _ => hashed m s cs row
    else hashed m s cs row

/-- A row with the times of writing. A new row keeps a time of making that it brings. -/
def stamped (m : Model) (writing : Writing) (now : String) (row : Record) : Record :=
  if m.timestamps then
    let row := if writing = .insert ∧ ¬ row.has createdAt then row.insert createdAt (.text now) else row
    row.insert updatedAt (.text now)
  else row

/-- A row that has passed validation. -/
def validated (m : Model) (writing : Writing) (row : Record) : Except ModelError Record :=
  let row := if writing = .insert then m.withoutNullKey row else row
  let errors := if writing = .insert then m.validate row else m.validatePartial row
  if errors.isEmpty then .ok row else .error (.validation errors)

/-- A row as it is written. -/
def prepare (m : Model) (s : Surroundings) (writing : Writing) (row : Record) : Except ModelError Record := do
  let row ← m.validated writing (m.known row)
  let row ← m.hashed s m.columns row
  .ok (m.stamped writing s.now row)

end Model

end DataModel

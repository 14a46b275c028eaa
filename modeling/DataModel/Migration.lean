import DataModel.Model
import DataModel.Store

/-! A model's table is made when it is missing; otherwise columns that are new are added and columns that are no
longer as declared are changed. No column is ever dropped. -/

namespace DataModel

/-- What a migration did. Retained columns are in the table and no longer declared. -/
structure MigrationReport where
  table : String
  created : Bool
  added : List String
  changed : List String
  retained : List String
deriving DecidableEq, Repr

namespace MigrationReport

/-- Whether nothing was done. -/
def isNoop (r : MigrationReport) : Bool :=
  !r.created && r.added.isEmpty && r.changed.isEmpty

end MigrationReport

/-- The types by which a database describes columns. -/
abbrev NativeTypes := Kind → String

namespace Model

/-- The last of the living columns of a name. -/
def liveColumn? (live : List LiveColumn) (name : String) : Option LiveColumn :=
  live.reverse.find? fun l => l.name = name

/-- Whether a living column is as it should be. The case of its type does not matter. -/
def isAsDefined (native : NativeTypes) (l : LiveColumn) (c : ColumnDefinition) : Bool :=
  Segment.lower (native c.kind) = Segment.lower l.dataType && l.sameShape c.kind && l.nullable == c.nullable

/-- The definitions of the model's columns in order. -/
def definitions (m : Model) : List ColumnDefinition :=
  m.columns.map m.definition

/-- The columns to be added and to be changed. The primary key is never changed. -/
def diff (native : NativeTypes) (m : Model) (live : List LiveColumn) : TableDiff :=
  { add := m.definitions.filter fun c => (liveColumn? live c.name).isNone
    change := m.definitions.filter fun c =>
      match liveColumn? live c.name with
      | some l => !c.primary && !isAsDefined native l c
      | none => false }

/-- The living columns that are no longer declared. -/
def retained (m : Model) (live : List LiveColumn) : List String :=
  (live.map LiveColumn.name).filter fun n => !m.hasColumn n

/-- Bring a table that is there in line with the model. -/
def migrateExisting (m : Model) (s : Store) : Except StoreError (MigrationReport × Store) := do
  let live ← s.describe m.tableName
  let d := diff Kind.name m live
  let report : MigrationReport := ⟨m.tableName, false, [], [], m.retained live⟩
  if d.isEmpty then .ok (report, s)
  else
    let s ← s.alter m.tableName d
    .ok ({ report with
            added := d.add.map ColumnDefinition.name
            changed := d.change.map ColumnDefinition.name }, s)

/-- Bring the model's table in line. With force it is dropped first and made anew. -/
def migrate (m : Model) (s : Store) (force : Bool) : Except ModelError (MigrationReport × Store) :=
  let s := if force then s.drop m.tableName else s
  let result : Except StoreError (MigrationReport × Store) :=
    if s.hasTable m.tableName then m.migrateExisting s
    else do
      let s ← s.create m.table
      .ok (⟨m.tableName, true, [], [], []⟩, s)
  match result with
  | .ok r => .ok r
  | .error e => .error (.migration m.tableName e)

end Model

end DataModel

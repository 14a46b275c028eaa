import DataModel.Migration
import DataModel.Preparation
import DataModel.Query.Resolve

/-! Reading and writing the rows of one model. An operation that writes gives back the store as it is afterwards,
and one that fails leaves it as it was; only saving several rows keeps those that were saved before the one
that failed. -/

namespace DataModel

/-- A model and what its requests are answered from. -/
structure Handle where
  library : Library
  model : Model

namespace Handle

/-- A request narrowed to the row with a primary key. -/
def byId (h : Handle) (id : Value) (q : Descriptor) : Descriptor :=
  q.narrowed (.compare h.model.primaryKey .eq id)

/-- The rows of a request. -/
def get (h : Handle) (q : Descriptor) : Except ModelError (List Record) :=
  h.library.run h.model q

/-- The row with a primary key, if it also passes the filter of a request. -/
def find (h : Handle) (id : Value) (q : Descriptor) : Except ModelError Record := do
  match ← h.get { (h.byId id q).limitedTo 1 with offset := none } with
  | row :: _ => .ok row
  | [] => .error (.notFound h.model.name id.display)

/-- How many rows a request finds. -/
def count (h : Handle) (q : Descriptor) : Except ModelError Nat :=
  h.library.count h.model q

/-- A page of the rows of a request. -/
def paginate (h : Handle) (q : Descriptor) (page size : UInt64) : Except ModelError Page :=
  h.library.paginate h.model q page size

/-- The failure of a row that cannot be inserted. -/
def validate (h : Handle) (row : Record) : Except ModelError Unit :=
  let errors := h.model.validate row
  if errors.isEmpty then .ok () else .error (.validation errors)

/-- Insert a row and give back its primary key. -/
def create (h : Handle) (s : Surroundings) (row : Record) : Except ModelError (Value × Store) := do
  let row ← h.model.prepare s .insert row
  Library.ofStore (h.library.store.insert h.model.tableName row)

/-- Change the rows that a request finds and give back how many. The primary key is never changed. -/
def updateWhere (h : Handle) (s : Surroundings) (q : Descriptor) (row : Record) :
    Except ModelError (Nat × Store) := do
  let row ← h.model.prepare s .update (row.erase h.model.primaryKey)
  if row.isEmpty then .ok (0, h.library.store)
  else
    let filter ← h.model.filter q
    Library.ofStore (h.library.store.update h.model.tableName filter row)

/-- Change the row with a primary key. -/
def update (h : Handle) (s : Surroundings) (id : Value) (row : Record) : Except ModelError (Nat × Store) :=
  h.updateWhere s (h.byId id .empty) row

/-- Change the row whose primary key a row brings, or insert the row, and give back the key. -/
def save (h : Handle) (s : Surroundings) (row : Record) : Except ModelError (Value × Store) :=
  match row.get? h.model.primaryKey with
  | some id => do
    let (_, store) ← h.update s id (row.erase h.model.primaryKey)
    .ok (id, store)
  | none => h.create s row

/-- Remove the rows that a request finds, deleted ones included. -/
def destroyWhere (h : Handle) (q : Descriptor) : Except ModelError (Nat × Store) := do
  let filter ← h.model.filter q.includingTrashed
  Library.ofStore (h.library.store.delete h.model.tableName filter)

/-- Remove the row with a primary key. -/
def destroy (h : Handle) (id : Value) : Except ModelError (Nat × Store) :=
  h.destroyWhere (h.byId id .empty)

/-- Delete the rows that a request finds: mark them, where the model marks deleted rows. -/
def deleteWhere (h : Handle) (now : String) (q : Descriptor) : Except ModelError (Nat × Store) :=
  if h.model.marksDeleted then do
    let filter ← h.model.filter q
    Library.ofStore (h.library.store.update h.model.tableName filter [(deletedAt, .text now)])
  else h.destroyWhere q

/-- Delete the row with a primary key. -/
def delete (h : Handle) (now : String) (id : Value) : Except ModelError (Nat × Store) :=
  h.deleteWhere now (h.byId id .empty)

/-- The default that stands for the number of a row. -/
def indexMark : String :=
  "$index"

/-- The value that a default gives to the row of a number. -/
def defaultFor (index : Nat) (v : Value) : Value :=
  match v with
  | .text s => if s = indexMark then .ofNat index else v
  | _ => v

/-- A row with the defaults for what it does not bring. -/
def withDefaults (index : Nat) (defaults row : Record) : Record :=
  defaults.foldl
    (fun row e => if row.has e.1 then row else row.insert e.1 (defaultFor index e.2)) row

/-- A failure of one row among several: what is not valid is marked with the number of the row. -/
def atRow (index : Nat) : ModelError → ModelError
  | .validation errors => .validation (ValidationErrors.atRow errors index)
  | e => e

/-- Save rows from a number on, and give back their keys. -/
def eachSaveFrom (h : Handle) (s : Nat → Surroundings) (defaults : Record) :
    Nat → List Record → Except ModelError (List Value) × Store
  | _, [] => (.ok [], h.library.store)
  | index, row :: rows =>
    match h.save (s index) (withDefaults index defaults row) with
    | .error e => (.error (atRow index e), h.library.store)
    | .ok (id, store) =>
      match eachSaveFrom { h with library := { h.library with store } } s defaults (index + 1) rows with
      | (.ok ids, store) => (.ok (id :: ids), store)
      | (.error e, store) => (.error e, store)

/-- Save rows one after the other, and give back their keys. Those saved before a failure stay. -/
def eachSave (h : Handle) (s : Nat → Surroundings) (rows : List Record) (defaults : Record) :
    Except ModelError (List Value) × Store :=
  h.eachSaveFrom s defaults 0 rows

/-- The failure of the first row whose number of values is not the expected one. -/
def checkShape (expected : Nat) : Nat → List (List Value) → Except ModelError Unit
  | _, [] => .ok ()
  | index, values :: rows =>
    if values.length = expected then checkShape expected (index + 1) rows
    else .error (.shape index expected values.length)

/-- Insert rows as they are, without looking at their values, and give back how many. -/
def insert (h : Handle) (columns : List String) (rows : List (List Value)) :
    Except ModelError (Nat × Store) := do
  columns.forM h.model.checkColumn
  checkShape columns.length 0 rows
  Library.ofStore (h.library.store.insertAll h.model.tableName columns rows)

/-- Bring the model's table in line with the model. -/
def migrate (h : Handle) (force : Bool) : Except ModelError (MigrationReport × Store) :=
  h.model.migrate h.library.store force

end Handle

namespace Library

/-- The handle of a loaded model. -/
def select (l : Library) (name : String) : Except ModelError Handle := do
  .ok ⟨l, ← l.registry.find name⟩

/-- Migrate models one after the other. Those migrated before a failure stay. -/
def migrateFrom (force : Bool) : List Model → Store → Except ModelError (List MigrationReport) × Store
  | [], s => (.ok [], s)
  | m :: ms, s =>
    match m.migrate s force with
    | .error e => (.error e, s)
    | .ok (report, s) =>
      match migrateFrom force ms s with
      | (.ok reports, s) => (.ok (report :: reports), s)
      | (.error e, s) => (.error e, s)

/-- Migrate every loaded model in the order of the names. -/
def migrateAll (l : Library) (force : Bool) : Except ModelError (List MigrationReport) × Store :=
  migrateFrom force (l.registry.models.map Prod.snd) l.store

end Library

end DataModel

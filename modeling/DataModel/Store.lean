import DataModel.Store.Table

/-! Tables by name. Every operation names a table; one that writes gives back the store as it is afterwards, and
one that fails gives back a failure only, so the store stays as it was. -/

namespace DataModel

/-- Tables by name. -/
structure Store where
  tables : Assoc Table

namespace Store

/-- The store without tables. -/
def empty : Store :=
  ⟨[]⟩

/-- The table of a name. -/
def table? (s : Store) (name : String) : Except StoreError Table :=
  match s.tables.get? name with
  | some t => .ok t
  | none => .error (.missingTable name)

/-- The store with a table under a name. -/
def put (s : Store) (name : String) (t : Table) : Store :=
  ⟨s.tables.insert name t⟩

/-- Whether there is a table. -/
def hasTable (s : Store) (name : String) : Bool :=
  s.tables.has name

/-- The columns of a table. -/
def describe (s : Store) (name : String) : Except StoreError (List LiveColumn) := do
  .ok (← s.table? name).columns

/-- Make a table. -/
def create (s : Store) (d : TableDefinition) : Except StoreError Store :=
  if s.hasTable d.name then .error (.tableExists d.name) else .ok (s.put d.name (.ofDefinition d))

/-- Change a table. -/
def alter (s : Store) (name : String) (d : TableDiff) : Except StoreError Store := do
  let t ← (← s.table? name).alter name d
  .ok (s.put name t)

/-- Drop a table, if it is there. -/
def drop (s : Store) (name : String) : Store :=
  ⟨s.tables.erase name⟩

/-- Rows of a table. -/
def select (s : Store) (name : String) (q : Selection) : Except StoreError (List Record) := do
  (← s.table? name).select name q

/-- How many rows of a table pass a filter. -/
def count (s : Store) (name : String) (filter : List Where) : Except StoreError Nat := do
  (← s.table? name).count name filter

/-- Insert a row and give back its primary key. -/
def insert (s : Store) (name : String) (values : Record) : Except StoreError (Value × Store) := do
  let (id, t) ← (← s.table? name).insert name values
  .ok (id, s.put name t)

/-- Insert several rows and give back how many. -/
def insertAll (s : Store) (name : String) (columns : List String) (rows : List (List Value)) :
    Except StoreError (Nat × Store) := do
  let (n, t) ← (← s.table? name).insertAll name columns rows
  .ok (n, s.put name t)

/-- Set cells of rows and give back how many rows. -/
def update (s : Store) (name : String) (filter : List Where) (values : Record) :
    Except StoreError (Nat × Store) := do
  let (n, t) ← (← s.table? name).update name filter values
  .ok (n, s.put name t)

/-- Remove rows and give back how many. -/
def delete (s : Store) (name : String) (filter : List Where) : Except StoreError (Nat × Store) := do
  let (n, t) ← (← s.table? name).delete name filter
  .ok (n, s.put name t)

end Store

end DataModel

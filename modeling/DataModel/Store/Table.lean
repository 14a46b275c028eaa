import DataModel.Query.Filter
import DataModel.Query.Selection
import DataModel.Query.Sorting
import DataModel.Store.Error
import DataModel.Table.Definition

/-! A table is its columns, their defaults, its primary key and its rows. An operation looks at everything before
it changes anything. -/

namespace DataModel

/-- A table. -/
structure Table where
  columns : List LiveColumn
  defaults : Assoc Value
  primaryKey : Option String
  autoIncrement : Bool
  /-- The next key to be generated, which is greater than every key that a row came in with. It is a number without
  bound. A counter of 64 bits overflows after the greatest key; what happens then is not described here, so what is
  said of generated keys is said of counters below two to the power of 63. -/
  nextId : Int
  rows : List Record

namespace Table

/-- A new table. The first column marked as primary is the primary key. -/
def ofDefinition (d : TableDefinition) : Table :=
  let primary := d.columns.find? ColumnDefinition.primary
  { columns := d.columns.map LiveColumn.ofDefinition
    defaults := Assoc.ofPairs (d.columns.filterMap fun c => c.default.map fun v => (c.name, v))
    primaryKey := primary.map ColumnDefinition.name
    autoIncrement := primary.any fun c => c.kind = .id
    nextId := 1
    rows := [] }

/-- Whether the table has a column. -/
def hasColumn (t : Table) (column : String) : Bool :=
  t.columns.any fun c => c.name = column

/-- The failure of the first column that the table does not have. -/
def checkColumns (t : Table) (name : String) : List String → Except StoreError Unit
  | [] => .ok ()
  | c :: cs => if t.hasColumn c then checkColumns t name cs else .error (.unknownColumn name c)

mutual

/-- The columns that a node of a filter names, in order. -/
def columnsOf : Where → List String
  | .leaf _ column _ _ => [column]
  | .group _ wheres => columnsOfAll wheres

/-- The columns that a filter names, in order. -/
def columnsOfAll : List Where → List String
  | [] => []
  | w :: ws => columnsOf w ++ columnsOfAll ws

end

/-- The failure of the first column of a filter that the table does not have. -/
def checkFilter (t : Table) (name : String) (filter : List Where) : Except StoreError Unit :=
  t.checkColumns name (columnsOfAll filter)

/-- The rows that pass a filter. -/
def matching (t : Table) (filter : List Where) : List Record :=
  t.rows.filter fun r => r.passes filter

/-- A row with some columns only; no columns means all of them. -/
def project (columns : List String) (row : Record) : Record :=
  if columns.isEmpty then row else Assoc.ofPairs (columns.map fun c => (c, row.cell c))

/-- The part of a list after the first `offset` and up to `limit` of them. -/
def window {α : Type} (offset limit : Option UInt64) (items : List α) : List α :=
  let rest := items.drop (offset.getD 0).toNat
  match limit with
  | some n => rest.take n.toNat
  | none => rest

/-- The rows of a selection. -/
def select (t : Table) (name : String) (s : Selection) : Except StoreError (List Record) := do
  t.checkFilter name s.filter
  t.checkColumns name s.columns
  t.checkColumns name (s.orders.map Order.column)
  .ok ((window s.offset s.limit (Record.sortedBy s.orders (t.matching s.filter))).map (project s.columns))

/-- How many rows pass a filter. -/
def count (t : Table) (name : String) (filter : List Where) : Except StoreError Nat := do
  t.checkFilter name filter
  .ok (t.matching filter).length

/-- A row with a cell for every column: the given value, or the default, or null. -/
def complete (t : Table) (values : Record) : Record :=
  Assoc.ofPairs (t.columns.map fun c =>
    (c.name, match values.get? c.name with
      | some v => v
      | none => (t.defaults.get? c.name).getD .null))

/-- Give a row its primary key when it is to be generated, and move the next number past the key. -/
def withKey (t : Table) (row : Record) (nextId : Int) : Record × Int :=
  match t.primaryKey with
  | none => (row, nextId)
  | some key =>
    if t.autoIncrement && row.isNullAt key then
      (row.insert key (.int (Int64.ofInt nextId)), nextId + 1)
    else
      match (row.cell key).int? with
      | some n => (row, max nextId (n.toInt + 1))
      | none => (row, nextId)

/-- The failure of the first column that may not be null and is. -/
def checkNulls (name : String) (row : Record) : List LiveColumn → Except StoreError Unit
  | [] => .ok ()
  | c :: cs =>
    if !c.nullable && row.isNullAt c.name then .error (.constraint (.nullCell name c.name))
    else checkNulls name row cs

/-- A complete row of given values, with its key, and the number that comes next. -/
def build (t : Table) (name : String) (values : Record) (nextId : Int) :
    Except StoreError (Record × Int) := do
  t.checkColumns name values.keys
  let (row, nextId) := t.withKey (t.complete values) nextId
  checkNulls name row t.columns
  .ok (row, nextId)

/-- The key of a row in a column, as text. -/
def keyAt (column : String) (row : Record) : Option String :=
  (row.get? column).bind Value.key

/-- The failure of the first new row whose key is among those there already. -/
def checkKeys (name column : String) : List String → List Record → Except StoreError Unit
  | _, [] => .ok ()
  | seen, row :: rows =>
    match keyAt column row with
    | none => checkKeys name column seen rows
    | some key =>
      if seen.contains key then .error (.constraint (.duplicateKey name column key))
      else checkKeys name column (key :: seen) rows

/-- The failure of new rows whose primary keys are not new. -/
def checkPrimaryKeys (t : Table) (name : String) (incoming : List Record) : Except StoreError Unit :=
  match t.primaryKey with
  | none => .ok ()
  | some key => checkKeys name key (t.rows.filterMap (keyAt key)) incoming

/-- Insert a row and give back its primary key. -/
def insert (t : Table) (name : String) (values : Record) : Except StoreError (Value × Table) := do
  let (row, nextId) ← t.build name values t.nextId
  t.checkPrimaryKeys name [row]
  let id :=
    match t.primaryKey with
    | some key => row.cell key
    | none => .null
  .ok (id, { t with nextId, rows := t.rows ++ [row] })

/-- Rows built one after the other, and the number that comes next. -/
def buildAll (t : Table) (name : String) (columns : List String) :
    Int → List (List Value) → Except StoreError (List Record × Int)
  | nextId, [] => .ok ([], nextId)
  | nextId, values :: rest =>
    if values.length ≠ columns.length then
      .error (.constraint (.rowLength name values.length columns.length))
    else do
      let (row, nextId) ← t.build name (Assoc.ofPairs (columns.zip values)) nextId
      let (rows, nextId) ← buildAll t name columns nextId rest
      .ok (row :: rows, nextId)

/-- Insert several rows and give back how many. -/
def insertAll (t : Table) (name : String) (columns : List String) (rows : List (List Value)) :
    Except StoreError (Nat × Table) := do
  let (built, nextId) ← t.buildAll name columns t.nextId rows
  t.checkPrimaryKeys name built
  .ok (built.length, { t with nextId, rows := t.rows ++ built })

/-- Set cells of the rows that pass a filter, and give back how many. -/
def update (t : Table) (name : String) (filter : List Where) (values : Record) :
    Except StoreError (Nat × Table) := do
  t.checkFilter name filter
  t.checkColumns name values.keys
  let rows := t.rows.map fun r => if r.passes filter then r.extend values else r
  .ok ((t.matching filter).length, { t with rows })

/-- Remove the rows that pass a filter, and give back how many. -/
def delete (t : Table) (name : String) (filter : List Where) : Except StoreError (Nat × Table) := do
  t.checkFilter name filter
  .ok ((t.matching filter).length, { t with rows := t.rows.filter fun r => !r.passes filter })

/-- Whether a cell has a text longer than a limit. -/
def isTooLong (limit : Nat) (row : Record) (column : String) : Bool :=
  match (row.cell column).text? with
  | some s => limit < s.length
  | none => false

/-- The failure of a column that cannot be changed because of what the rows hold. -/
def checkChange (t : Table) (name : String) (c : ColumnDefinition) : Except StoreError Unit :=
  if !c.nullable && t.rows.any fun r => r.isNullAt c.name then
    .error (.constraint (.nullsPresent name c.name))
  else
    match c.kind.maxLength with
    | some limit =>
      if t.rows.any fun r => isTooLong limit r c.name then
        .error (.constraint (.valuesTooLong name c.name limit))
      else .ok ()
    | none => .ok ()

/-- The failure of a column that cannot be added because the rows there would have nothing in it. -/
def checkAddition (t : Table) (name : String) (c : ColumnDefinition) : Except StoreError Unit :=
  if !c.nullable && c.default.isNone && !t.rows.isEmpty && !t.hasColumn c.name then
    .error (.constraint (.nothingToFill name c.name))
  else .ok ()

/-- Add a column, filled with its default; one that is there already is left alone. -/
def addColumn (t : Table) (c : ColumnDefinition) : Table :=
  if t.hasColumn c.name then t
  else
    { t with
      columns := t.columns ++ [.ofDefinition c]
      defaults :=
        match c.default with
        | some v => t.defaults.insert c.name v
        | none => t.defaults
      rows := t.rows.map fun r => r.insert c.name (c.default.getD .null) }

/-- Replace the first column of a name. -/
def replaceColumn (c : LiveColumn) : List LiveColumn → List LiveColumn
  | [] => []
  | l :: ls => if l.name = c.name then c :: ls else l :: replaceColumn c ls

/-- Change a column that is there. -/
def changeColumn (t : Table) (c : ColumnDefinition) : Table :=
  { t with columns := replaceColumn (.ofDefinition c) t.columns }

/-- Add and change columns. -/
def alter (t : Table) (name : String) (d : TableDiff) : Except StoreError Table := do
  d.change.forM (t.checkChange name)
  d.add.forM (t.checkAddition name)
  .ok (d.change.foldl changeColumn (d.add.foldl addColumn t))

end Table

end DataModel

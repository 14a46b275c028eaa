import DataModel.Column
import DataModel.Metadata.Json
import DataModel.Table.Definition
import DataModel.Text.Blank

/-! A model is what a metadata document declares, with its columns read: the declared ones in their order and then
those the engine adds. A model always has a primary key among its columns. -/

namespace DataModel

/-- When a row was made. -/
def createdAt : String :=
  "created_at"

/-- When a row was last changed. -/
def updatedAt : String :=
  "updated_at"

/-- When a row was marked as deleted. -/
def deletedAt : String :=
  "deleted_at"

/-- The primary key of a model that declares none. -/
def defaultPrimaryKey : String :=
  "id"

/-- How a column is made. -/
def Column.definition (c : Column) (primary : Bool) : ColumnDefinition :=
  { name := c.name
    kind := c.kind
    nullable := c.nullable
    default := c.default
    primary
    unique := c.unique
    index := c.index }

/-- A loaded model, with the source it was loaded from. -/
structure Model where
  name : String
  source : String
  declared : Metadata
  columns : List Column
  primaryKey : String

namespace Model

/-- The columns of a list are not blank and have different names, none of which is among those
seen before. -/
def checkColumns (table : String) : List String → List ColumnDeclaration → Except ParseProblem Unit
  | _, [] => .ok ()
  | seen, c :: cs =>
    if Blank.isAllBlank c.name then .error (.columnWithoutName table)
    else if seen.contains c.name then .error (.duplicateColumn table c.name)
    else checkColumns table (c.name :: seen) cs

/-- The table has a name, and so has every column, one of its own. -/
def check (m : Metadata) : Except ParseProblem Unit :=
  if Blank.isAllBlank m.table.name then .error .tableWithoutName
  else checkColumns m.table.name [] m.columns

/-- The primary key: the first column of the kind made for it, or the default. -/
def primaryKeyOf (columns : List Column) : String :=
  match columns.find? fun c => c.kind = .id with
  | some c => c.name
  | none => defaultPrimaryKey

/-- The columns a model gets if it has not declared them. -/
def additions (primaryKey : String) (options : ModelOptions) : List ColumnDeclaration :=
  [.added primaryKey "ID" false] ++
    (if options.timestamps then
      [.added createdAt "timestamp" true, .added updatedAt "timestamp" true] else []) ++
    (if options.softDeletes then [.added deletedAt "timestamp" true] else [])

/-- Whether a column is among some. -/
def hasColumnIn (columns : List Column) (name : String) : Bool :=
  columns.any fun c => c.name = name

/-- The model of declared metadata. -/
def resolve (name source : String) (m : Metadata) : Except ParseProblem Model := do
  check m
  let declared ← m.columns.mapM fun c => Column.ofDeclaration c false
  let primaryKey := primaryKeyOf declared
  let missing := (additions primaryKey m.options).filter fun c => !hasColumnIn declared c.name
  let added ← missing.mapM fun c => Column.ofDeclaration c true
  .ok { name, source, primaryKey, declared := m, columns := declared ++ added }

/-- The model of a text. -/
def ofText (name source text : String) : Except ParseProblem Model :=
  match Metadata.parse? text with
  | some m => resolve name source m
  | none => .error (.source name)

/-- The name of the table. -/
def tableName (m : Model) : String :=
  m.declared.table.name

/-- The names of the columns in order. -/
def columnNames (m : Model) : List String :=
  m.columns.map Column.name

/-- The column of a name. -/
def column? (m : Model) (name : String) : Option Column :=
  m.columns.find? fun c => c.name = name

/-- Whether the model has a column. -/
def hasColumn (m : Model) (name : String) : Bool :=
  hasColumnIn m.columns name

/-- The relation of a name. -/
def relation? (m : Model) (name : String) : Option Relation :=
  m.declared.relations.get? name

/-- Whether deleting a row only marks it. -/
def softDeletes (m : Model) : Bool :=
  m.declared.options.softDeletes

/-- Whether rows carry the times they were made and changed. -/
def timestamps (m : Model) : Bool :=
  m.declared.options.timestamps

/-- Whether deleted rows are marked in a column of the model. -/
def marksDeleted (m : Model) : Bool :=
  m.softDeletes && m.hasColumn deletedAt

/-- What statements need to know of the model's table. -/
def schema (m : Model) : TableSchema :=
  { name := m.tableName
    primaryKey := some m.primaryKey
    autoIncrement := (m.column? m.primaryKey).any fun c => c.kind = .id
    columns := m.columnNames
    kinds := m.columns.map fun c => (c.name, c.kind) }

/-- How a column of the model is made. The primary key is never null. -/
def definition (m : Model) (c : Column) : ColumnDefinition :=
  if c.name = m.primaryKey then { c.definition true with nullable := false } else c.definition false

/-- How the model's table is made. -/
def table (m : Model) : TableDefinition :=
  { name := m.tableName
    comment := m.declared.table.comment
    columns := m.columns.map m.definition }

end Model

end DataModel

import DataModel.Query.Selection
import DataModel.Sql.Condition

namespace DataModel.Sql

/-- Names with commas between them. -/
def names (columns : List String) : Statement :=
  joined ", " (columns.map fun c => [.name c])

/-- A column to be read. A decimal is read as text, so it keeps all its digits. -/
def selected (t : TableSchema) (column : String) : Statement :=
  match t.kind? column with
  | some (.decimal _ _) => [.name column, .word "::text AS ", .name column]
  | _ => [.name column]

/-- The columns to be read: those asked for, or all declared ones, or whatever there is. -/
def selectList (t : TableSchema) (columns : List String) : Statement :=
  match if columns.isEmpty then t.columns else columns with
  | [] => [.word "*"]
  | cs => joined ", " (cs.map (selected t))

/-- The orders asked for; without any, rows of a declared table are ordered by the primary key. -/
def orderClause (t : TableSchema) (orders : List Order) : Statement :=
  match orders, t.primaryKey with
  | [], some key => if t.columns.isEmpty then [] else [.word " ORDER BY ", .name key]
  | [], none => []
  | orders, _ =>
    .word " ORDER BY " ::
      joined ", " (orders.map fun o => [.name o.column, .word (" " ++ o.direction.sql)])

/-- A number after a keyword, if there is one. -/
def numberClause (keyword : String) : Option UInt64 → Statement
  | none => []
  | some n => [.word (keyword ++ Numeral.natText n.toNat)]

/-- Read rows. -/
def select (schema : String) (t : TableSchema) (s : Selection) : Statement :=
  .word "SELECT " ::
    (selectList t s.columns ++ .word " FROM " :: (qualified schema t.name ++
      whereClause t s.filter ++ orderClause t s.orders ++ numberClause " LIMIT " s.limit ++
      numberClause " OFFSET " s.offset))

/-- Count rows. -/
def count (schema : String) (t : TableSchema) (filter : List Where) : Statement :=
  .word "SELECT COUNT(*) AS total FROM " :: (qualified schema t.name ++ whereClause t filter)

/-- The primary key of a new row is given back. -/
def returning (t : TableSchema) : Statement :=
  match t.primaryKey with
  | some key => [.word " RETURNING ", .name key]
  | none => []

/-- Insert one row. -/
def insert (schema : String) (t : TableSchema) (row : Record) : Statement :=
  let target := .word "INSERT INTO " :: qualified schema t.name
  if row.isEmpty then target ++ .word " DEFAULT VALUES" :: returning t
  else
    target ++ .word " (" :: (names row.keys ++ .word ") VALUES (" ::
      (joined ", " (row.map fun e => [param t e.1 e.2]) ++ .word ")" :: returning t))

/-- The values of one row between parentheses. -/
def tuple (t : TableSchema) (columns : List String) (row : List Value) : Statement :=
  .word "(" :: (joined ", " ((columns.zip row).map fun e => [param t e.1 e.2]) ++ [.word ")"])

/-- Insert several rows. -/
def insertMany (schema : String) (t : TableSchema) (columns : List String) (rows : List (List Value)) :
    Statement :=
  .word "INSERT INTO " :: (qualified schema t.name ++ .word " (" :: (names columns ++
    .word ") VALUES " :: joined ", " (rows.map (tuple t columns))))

/-- Change cells of rows. -/
def update (schema : String) (t : TableSchema) (filter : List Where) (values : Record) : Statement :=
  .word "UPDATE " :: (qualified schema t.name ++ .word " SET " ::
    (joined ", " (values.map fun e => [.name e.1, .word " = ", param t e.1 e.2]) ++ whereClause t filter))

/-- Delete rows. -/
def delete (schema : String) (t : TableSchema) (filter : List Where) : Statement :=
  .word "DELETE FROM " :: (qualified schema t.name ++ whereClause t filter)

end DataModel.Sql

import DataModel.Sql.Literal
import DataModel.Table.Definition

namespace DataModel.Sql

/-- A column in a statement that makes it. -/
def columnClause (c : ColumnDefinition) : Statement :=
  [.name c.name, .word (" " ++ c.kind.ddl)] ++
    (if c.primary then [.word " PRIMARY KEY"]
     else
      (if c.nullable then [] else [.word " NOT NULL"]) ++ (if c.unique then [.word " UNIQUE"] else [])) ++
    (match c.default with
     | some v => .word " DEFAULT " :: defaultLiteral v
     | none => [])

/-- The name of the index of a column. -/
def indexName (table column : String) : String :=
  table ++ "_" ++ column ++ "_index"

/-- Make the index of a column. -/
def createIndex (schema table column : String) : Statement :=
  [.word "CREATE INDEX IF NOT EXISTS ", .name (indexName table column), .word " ON "] ++
    qualified schema table ++ [.word " (", .name column, .word ")"]

/-- Make a table: the table, an index for every column that asks for one and has none by itself, and
the comment. -/
def createTable (schema : String) (t : TableDefinition) : List Statement :=
  let target := qualified schema t.name
  let indexed := t.columns.filter fun c => c.index && !c.primary && !c.unique
  [.word "CREATE TABLE IF NOT EXISTS " :: (target ++ .word " (" ::
      (joined ", " (t.columns.map columnClause) ++ [.word ")"]))] ++
    indexed.map (fun c => createIndex schema t.name c.name) ++
    (match t.comment with
     | some comment => [.word "COMMENT ON TABLE " :: (target ++ [.word " IS ", .literal comment])]
     | none => [])

/-- Add a column, and its index if it asks for one and has none by itself. -/
def addColumn (schema table : String) (c : ColumnDefinition) : List Statement :=
  (.word "ALTER TABLE " :: (qualified schema table ++ .word " ADD COLUMN IF NOT EXISTS " :: columnClause c)) ::
    (if c.index && !c.unique then [createIndex schema table c.name] else [])

/-- The type a column is changed to. Only a new column brings a counter of its own. -/
def changedType : Kind → String
  | .id => "BIGINT"
  | k => k.ddl

/-- Change the type of a column and whether it may be null. Texts of a bounded type are not cast, so
a text that is too long is refused and not cut. -/
def changeColumn (schema table : String) (c : ColumnDefinition) : List Statement :=
  let column : Statement :=
    .word "ALTER TABLE " :: (qualified schema table ++ [.word " ALTER COLUMN ", .name c.name])
  let type := changedType c.kind
  let change : Statement :=
    match c.kind.maxLength with
    | some _ => [.word (" TYPE " ++ type)]
    | none => [.word (" TYPE " ++ type ++ " USING "), .name c.name, .word ("::" ++ type)]
  [column ++ change, column ++ [.word (if c.nullable then " DROP NOT NULL" else " SET NOT NULL")]]

/-- Change a table. -/
def alterTable (schema table : String) (d : TableDiff) : List Statement :=
  d.add.flatMap (addColumn schema table) ++ d.change.flatMap (changeColumn schema table)

/-- Drop a table. -/
def dropTable (schema table : String) : Statement :=
  .word "DROP TABLE IF EXISTS " :: qualified schema table

end DataModel.Sql

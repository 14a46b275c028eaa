import DataModel.Column.Kind
import DataModel.Value

namespace DataModel

/-- A column to be made. -/
structure ColumnDefinition where
  name : String
  kind : Kind
  nullable : Bool
  default : Option Value
  primary : Bool
  unique : Bool
  index : Bool

/-- A table to be made. -/
structure TableDefinition where
  name : String
  comment : Option String
  columns : List ColumnDefinition

/-- A column of a living table. -/
structure LiveColumn where
  name : String
  dataType : String
  nullable : Bool
  length : Option Nat
  precision : Option Nat
  scale : Option Nat
deriving DecidableEq, Repr

/-- What has to change in a living table. -/
structure TableDiff where
  add : List ColumnDefinition
  change : List ColumnDefinition

/-- What a statement needs to know of a table. A table without declared columns is untyped. -/
structure TableSchema where
  name : String
  primaryKey : Option String
  autoIncrement : Bool
  columns : List String
  kinds : Assoc Kind

namespace LiveColumn

/-- A living column as it is when just made. -/
def ofDefinition (c : ColumnDefinition) : LiveColumn :=
  { name := c.name
    dataType := c.kind.name
    nullable := c.nullable
    length := c.kind.maxLength
    precision := c.kind.shape.map Prod.fst
    scale := c.kind.shape.map Prod.snd }

/-- Whether a size is not known or as declared. -/
def agrees (live : Option Nat) (declared : Nat) : Bool :=
  match live with
  | none => true
  | some n => n = declared

/-- Whether the sizes are as a kind declares them. Sizes that are not known agree with all. -/
def sameShape (l : LiveColumn) (kind : Kind) : Bool :=
  match kind.maxLength, kind.shape with
  | some length, _ => agrees l.length length
  | none, some (precision, scale) => agrees l.precision precision && agrees l.scale scale
  | none, none => true

end LiveColumn

namespace TableDiff

/-- Whether nothing has to change. -/
def isEmpty (d : TableDiff) : Bool :=
  d.add.isEmpty && d.change.isEmpty

end TableDiff

namespace TableSchema

/-- A table of which only the name is known. -/
def untyped (name : String) : TableSchema :=
  ⟨name, none, false, [], []⟩

/-- The kind of a column, if it is known. -/
def kind? (t : TableSchema) (column : String) : Option Kind :=
  t.kinds.get? column

end TableSchema

end DataModel

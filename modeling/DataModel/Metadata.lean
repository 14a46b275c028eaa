import DataModel.Query.Descriptor

/-! What a model source declares: a table, its columns with types, rules and defaults, relations to other models,
and options. Nothing here is checked yet. -/

namespace DataModel

/-- A table. -/
structure TableDeclaration where
  name : String
  comment : Option String

/-- How values of a column are protected. -/
inductive Crypt where
  | password
deriving DecidableEq

/-- What the values of a column must satisfy beyond their type. -/
structure Rule where
  required : Option Bool
  format : Option String
  maxLength : Option Nat
  minLength : Option Nat
  pattern : Option String
  allowed : Option (List Value)
  minimum : Option Binary64
  maximum : Option Binary64

/-- A column. The options are the values an enum column may have. -/
structure ColumnDeclaration where
  name : String
  type : String
  label : Option String
  comment : Option String
  length : Option Nat
  precision : Option Nat
  scale : Option Nat
  nullable : Bool
  default : Option Value
  unique : Bool
  index : Bool
  crypt : Option Crypt
  options : List String
  rule : Option Rule

/-- How many rows of the related model belong to a row. -/
inductive Cardinality where
  | oneToOne
  | oneToMany
  | manyToMany
deriving DecidableEq

/-- The table that joins two models. One key refers to the declaring model, the other to the
related one. Without named columns every other column is copied onto the related rows. -/
structure Pivot where
  table : String
  localKey : String
  foreignKey : String
  columns : List String

/-- A relation to another model: a column here, the column there, and the query for the related rows
when a request brings none. -/
structure Relation where
  kind : Cardinality
  model : String
  localKey : String
  foreignKey : String
  pivot : Option Pivot
  query : Option Descriptor

/-- Options of a model. -/
structure ModelOptions where
  timestamps : Bool
  softDeletes : Bool
deriving DecidableEq

/-- Everything a model source declares. Relations are ordered by name. -/
structure Metadata where
  name : String
  table : TableDeclaration
  columns : List ColumnDeclaration
  relations : Assoc Relation
  options : ModelOptions

namespace ColumnDeclaration

/-- A column that the engine adds by itself. -/
def added (name type : String) (nullable : Bool) : ColumnDeclaration :=
  { name, type, nullable
    label := none
    comment := none
    length := none
    precision := none
    scale := none
    default := none
    unique := false
    index := false
    crypt := none
    options := []
    rule := none }

end ColumnDeclaration

namespace Cardinality

/-- The name a cardinality is written as. -/
def name : Cardinality → String
  | oneToOne => "one_to_one"
  | oneToMany => "one_to_many"
  | manyToMany => "many_to_many"

/-- The names a cardinality may be read by. -/
def names : List (String × Cardinality) :=
  [("one_to_one", oneToOne), ("hasOne", oneToOne), ("one_to_many", oneToMany), ("hasMany", oneToMany),
   ("many_to_many", manyToMany), ("belongsToMany", manyToMany), ("hasManyThrough", manyToMany)]

end Cardinality

end DataModel

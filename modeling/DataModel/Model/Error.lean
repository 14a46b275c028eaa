import DataModel.Store.Error
import DataModel.Validation.Errors

/-!
# Failures of model operations

Why a source is no model, why a query cannot be answered or a row cannot be written. A failure holds
its cause; its text is a function of the cause. Where the text would go on with the explanation of a
reader for another format, its place is marked by the name of that format in angle brackets.
-/

namespace DataModel

/-- Why a source or a request cannot be read. -/
inductive ParseProblem where
  | metadata
  | source (model : String)
  | file (path : String)
  | tableWithoutName
  | columnWithoutName (table : String)
  | duplicateColumn (table column : String)
  | unknownType (column type : String)
  | pattern (column : String)
  | noModelNamed
  | other (text : String)
deriving DecidableEq, Repr

/-- What a many-to-many relation lacks. -/
inductive PivotPart where
  | pivot
  | table
  | keys
deriving DecidableEq, Repr

/-- Why the declared relations do not fit the models. -/
inductive SchemaProblem where
  | collision (name model : String)
  | unknownModel (model relation related : String)
  | missingColumn (relation model column : String)
  | incomplete (model relation : String) (part : PivotPart)
  | other (text : String)
deriving DecidableEq, Repr

/-- Why a model operation failed. -/
inductive ModelError where
  | parse (p : ParseProblem)
  | schema (p : SchemaProblem)
  | unknownColumn (model column : String)
  | validation (errors : ValidationErrors)
  | shape (row expected got : Nat)
  | store (e : StoreError)
  | relationCycle (chain : List String)
  | notFound (model id : String)
  | modelNotLoaded (model : String)
  | crypt (model column : String) (cost : Nat)
  | migration (table : String) (source : StoreError)
deriving DecidableEq, Repr

namespace ParseProblem

/-- The text of a problem. -/
def message : ParseProblem → String
  | metadata => "<json>"
  | source model => "model " ++ model ++ ": <json>"
  | file path => path ++ ": <io>"
  | tableWithoutName => "table.name is required"
  | columnWithoutName table => "table " ++ table ++ ": column without a name"
  | duplicateColumn table column => "table " ++ table ++ ": duplicate column " ++ column
  | unknownType column type => "column " ++ column ++ " has unknown type '" ++ type ++ "'"
  | pattern column => "column " ++ column ++ " pattern: <regex>"
  | noModelNamed => "query descriptor names no model"
  | other text => text

end ParseProblem

namespace PivotPart

/-- The name of a part. -/
def name : PivotPart → String
  | pivot => "pivot"
  | table => "pivot table"
  | keys => "pivot keys"

end PivotPart

namespace SchemaProblem

/-- The text of a problem. -/
def message : SchemaProblem → String
  | collision name model => "eager-load " ++ name ++ " collides with column " ++ model ++ "." ++ name
  | unknownModel model relation related =>
    "relation " ++ model ++ "." ++ relation ++ " references unknown model " ++ related
  | missingColumn relation model column => "relation " ++ relation ++ " needs column " ++ model ++ "." ++ column
  | incomplete model relation part =>
    "many-to-many relation " ++ model ++ "." ++ relation ++ " has no " ++ part.name
  | other text => text

end SchemaProblem

namespace ModelError

/-- The costs of password hashes that are possible. -/
def hashCostText : String :=
  "Cost needs to be between 4 and 31, got "

/-- The text of a failure. -/
def message : ModelError → String
  | parse p => "parse: " ++ p.message
  | schema p => "schema: " ++ p.message
  | unknownColumn model column => "model " ++ model ++ " has no column " ++ column
  | validation errors => "validation: " ++ errors.text
  | shape row expected got =>
    "row " ++ Numeral.natText row ++ " has " ++ Numeral.natText got ++ " values, expected " ++
      Numeral.natText expected
  | store e => e.message
  | relationCycle chain => "relation cycle: " ++ Segment.join " -> " chain
  | notFound model id => "not found: " ++ model ++ " " ++ id
  | modelNotLoaded model => "model not loaded: " ++ model
  | crypt model column cost =>
    "hashing " ++ model ++ "." ++ column ++ " failed: " ++ hashCostText ++ Numeral.natText cost
  | migration table source => "migration of " ++ table ++ " failed: " ++ source.message

/-- The class of a failure. -/
def kind : ModelError → String
  | parse _ => "Parse"
  | schema _ => "Schema"
  | unknownColumn _ _ => "UnknownColumn"
  | validation _ => "Validation"
  | shape _ _ _ => "Shape"
  | store e => "Store." ++ e.kind
  | relationCycle _ => "RelationCycle"
  | notFound _ _ => "NotFound"
  | modelNotLoaded _ => "ModelNotLoaded"
  | crypt _ _ _ => "Crypt"
  | migration _ _ => "Migration"

/-- A failed migration leaves the table in a state nobody knows, so whoever started it has to stop. -/
def isFatal : ModelError → Bool
  | migration _ _ => true
  | _ => false

end ModelError

end DataModel

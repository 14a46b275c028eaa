import DataModel.Json.Printer
import DataModel.Model.Error

/-! A failed operation as a web service answers it: a status, a code, a text, and the failing columns of a row
that was not valid. -/

namespace DataModel

/-- A failure as it is answered. -/
structure Fault where
  status : Nat
  code : String
  message : String
  details : Option ValidationErrors
deriving DecidableEq, Repr

namespace Fault

/-- The status and code of a failure. -/
def statusAndCode : ModelError → Nat × String
  | .parse _ => (400, "parse_error")
  | .schema _ => (500, "schema_error")
  | .unknownColumn _ _ => (400, "unknown_column")
  | .validation _ => (400, "validation_error")
  | .shape _ _ _ => (400, "shape_error")
  | .store _ => (500, "database_error")
  | .relationCycle _ => (500, "relation_cycle")
  | .notFound _ _ => (404, "not_found")
  | .modelNotLoaded _ => (500, "model_not_loaded")
  | .crypt _ _ _ => (500, "crypt_error")
  | .migration _ _ => (500, "migration_error")

/-- The answer to a failure. -/
def ofError (e : ModelError) : Fault :=
  let (status, code) := statusAndCode e
  { status, code
    message := e.message
    details :=
      match e with
      | .validation errors => some errors
      | _ => none }

/-- The answer in one line. -/
def text (f : Fault) : String :=
  Numeral.natText f.status ++ " " ++ f.message

/-- The tree of the answer. -/
def toJson (f : Fault) : Json :=
  let details :=
    match f.details with
    | some errors => [("details", ValidationErrors.toJson errors)]
    | none => []
  .obj [("error", .obj ([("code", .str f.code), ("message", .str f.message)] ++ details))]

/-- The type of the answer's body. -/
def contentType : String :=
  "application/json"

/-- The JSON text of the answer. -/
def body (f : Fault) : String :=
  f.toJson.text

end Fault

end DataModel

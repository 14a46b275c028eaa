import DataModel.Metadata
import DataModel.Query.Descriptor.Json

namespace DataModel

/-- An optional natural number. -/
def natJson : Option Nat → Json
  | none => .null
  | some n => .nat n

/-- An optional number. -/
def realJson : Option Binary64 → Json
  | none => .null
  | some x => .float x

/-- An optional truth value. -/
def truthJson : Option Bool → Json
  | none => .null
  | some b => .bool b

/-- An unsigned 32-bit number. -/
def size? (j : Json) : Option Nat :=
  j.natural? (twoTo 32)

namespace TableDeclaration

/-- The tree of a table. -/
def toJson (t : TableDeclaration) : Json :=
  .obj [("name", .str t.name), ("comment", .ofText? t.comment)]

/-- A table. -/
def ofJson? (j : Json) : Option TableDeclaration := do
  let parts ← Json.parts? ["name", "comment"] j
  let name ← Json.part? parts "name" Json.text?
  let comment ← Json.partOr? parts "comment" none (Json.optional? Json.text?)
  some ⟨name, comment⟩

end TableDeclaration

namespace Rule

/-- The tree of a rule. -/
def toJson (r : Rule) : Json :=
  .obj [("required", truthJson r.required), ("format", .ofText? r.format),
    ("max_length", natJson r.maxLength), ("min_length", natJson r.minLength),
    ("pattern", .ofText? r.pattern),
    ("allowed", match r.allowed with
      | none => .null
      | some vs => .arr (vs.map Value.toJson)),
    ("minimum", realJson r.minimum), ("maximum", realJson r.maximum)]

/-- The names of the parts of a rule in order. -/
def partNames : List String :=
  ["required", "format", "max_length", "min_length", "pattern", "allowed", "minimum", "maximum"]

/-- A rule. -/
def ofJson? (j : Json) : Option Rule := do
  let parts ← Json.parts? partNames j
  let required ← Json.partOr? parts "required" none (Json.optional? Json.truth?)
  let format ← Json.partOr? parts "format" none (Json.optional? Json.text?)
  let maxLength ← Json.partOr? parts "max_length" none (Json.optional? size?)
  let minLength ← Json.partOr? parts "min_length" none (Json.optional? size?)
  let pattern ← Json.partOr? parts "pattern" none (Json.optional? Json.text?)
  let allowed ← Json.partOr? parts "allowed" none (Json.optional? (Json.items? Value.ofJson?))
  let minimum ← Json.partOr? parts "minimum" none (Json.optional? Json.real?)
  let maximum ← Json.partOr? parts "maximum" none (Json.optional? Json.real?)
  some ⟨required, format, maxLength, minLength, pattern, allowed, minimum, maximum⟩

end Rule

namespace Crypt

/-- The names of protections. -/
def names : List (String × Crypt) :=
  [("PASSWORD", password)]

/-- The tree of an optional protection. -/
def toJson : Option Crypt → Json
  | none => .null
  | some password => .str "PASSWORD"

end Crypt

namespace ColumnDeclaration

/-- The tree of a column. -/
def toJson (c : ColumnDeclaration) : Json :=
  .obj [("name", .str c.name), ("type", .str c.type), ("label", .ofText? c.label),
    ("comment", .ofText? c.comment), ("length", natJson c.length), ("precision", natJson c.precision),
    ("scale", natJson c.scale), ("nullable", .bool c.nullable),
    ("default", match c.default with
      | none => .null
      | some v => v.toJson),
    ("unique", .bool c.unique), ("index", .bool c.index), ("crypt", Crypt.toJson c.crypt),
    ("option", .arr (c.options.map .str)),
    ("validation", match c.rule with
      | none => .null
      | some r => r.toJson)]

/-- The names of the parts of a column in order. -/
def partNames : List String :=
  ["name", "type", "label", "comment", "length", "precision", "scale", "nullable", "default", "unique",
   "index", "crypt", "option", "validation"]

/-- A column from its parts. -/
def ofParts? (parts : Assoc Json) : Option ColumnDeclaration := do
  let name ← Json.part? parts "name" Json.text?
  let type ← Json.part? parts "type" Json.text?
  let label ← Json.partOr? parts "label" none (Json.optional? Json.text?)
  let comment ← Json.partOr? parts "comment" none (Json.optional? Json.text?)
  let length ← Json.partOr? parts "length" none (Json.optional? size?)
  let precision ← Json.partOr? parts "precision" none (Json.optional? size?)
  let scale ← Json.partOr? parts "scale" none (Json.optional? size?)
  let nullable ← Json.partOr? parts "nullable" true Json.truth?
  let default ← Json.partOr? parts "default" none (Json.optional? Value.ofJson?)
  let unique ← Json.partOr? parts "unique" false Json.truth?
  let index ← Json.partOr? parts "index" false Json.truth?
  let crypt ← Json.partOr? parts "crypt" none (Json.optional? (Json.choice? Crypt.names))
  let options ← Json.partOr? parts "option" [] (Json.items? Json.text?)
  let rule ← Json.partOr? parts "validation" none (Json.optional? Rule.ofJson?)
  some { name, type, label, comment, length, precision, scale, nullable, default, unique, index, crypt
         options, rule }

/-- A column. -/
def ofJson? (j : Json) : Option ColumnDeclaration := do
  ofParts? (← Json.parts? partNames j)

end ColumnDeclaration

namespace Pivot

/-- The tree of a join table. -/
def toJson (p : Pivot) : Json :=
  .obj [("table", .str p.table), ("local_key", .str p.localKey), ("foreign_key", .str p.foreignKey),
    ("columns", .arr (p.columns.map .str))]

/-- A join table. -/
def ofJson? (j : Json) : Option Pivot := do
  let parts ← Json.parts? ["table", "local_key", "foreign_key", "columns"] j
  let table ← Json.part? parts "table" Json.text?
  let localKey ← Json.partOr? parts "local_key" "" Json.text?
  let foreignKey ← Json.partOr? parts "foreign_key" "" Json.text?
  let columns ← Json.partOr? parts "columns" [] (Json.items? Json.text?)
  some ⟨table, localKey, foreignKey, columns⟩

end Pivot

namespace Relation

/-- The tree of a relation. -/
def toJson (r : Relation) : Json :=
  .obj [("type", .str r.kind.name), ("model", .str r.model), ("local_key", .str r.localKey),
    ("foreign_key", .str r.foreignKey),
    ("pivot", match r.pivot with
      | none => .null
      | some p => p.toJson),
    ("query", match r.query with
      | none => .null
      | some q => q.toJson)]

/-- The names of the parts of a relation in order. -/
def partNames : List String :=
  ["type", "model", "local_key", "foreign_key", "pivot", "query"]

/-- A relation. -/
def ofJson? (j : Json) : Option Relation := do
  let parts ← Json.parts? partNames j
  let kind ← Json.part? parts "type" (Json.choice? Cardinality.names)
  let model ← Json.part? parts "model" Json.text?
  let localKey ← Json.part? parts "local_key" Json.text?
  let foreignKey ← Json.part? parts "foreign_key" Json.text?
  let pivot ← Json.partOr? parts "pivot" none (Json.optional? Pivot.ofJson?)
  let query ← Json.partOr? parts "query" none (Json.optional? Descriptor.ofJson?)
  some ⟨kind, model, localKey, foreignKey, pivot, query⟩

end Relation

namespace ModelOptions

/-- The tree of a model's options. -/
def toJson (o : ModelOptions) : Json :=
  .obj [("timestamps", .bool o.timestamps), ("soft_deletes", .bool o.softDeletes)]

/-- A model's options. -/
def ofJson? (j : Json) : Option ModelOptions := do
  let parts ← Json.parts? ["timestamps", "soft_deletes"] j
  let timestamps ← Json.partOr? parts "timestamps" false Json.truth?
  let softDeletes ← Json.partOr? parts "soft_deletes" false Json.truth?
  some ⟨timestamps, softDeletes⟩

end ModelOptions

namespace Metadata

/-- The tree of a declaration. -/
def toJson (m : Metadata) : Json :=
  .obj [("name", .str m.name), ("table", m.table.toJson),
    ("columns", .arr (m.columns.map ColumnDeclaration.toJson)),
    ("relations", .obj (m.relations.map fun r => (r.1, r.2.toJson))), ("option", m.options.toJson)]

/-- Relations by name; of a repeated name the last. -/
def relationsOf? : Json → Option (Assoc Relation)
  | .obj members => do
    let rs ← members.mapM fun m => do some (m.1, ← Relation.ofJson? m.2)
    some (Assoc.sortedByKey rs)
  | _ => none

/-- The names of the parts of a declaration in order. -/
def partNames : List String :=
  ["name", "table", "columns", "relations", "option"]

/-- A declaration. -/
def ofJson? (j : Json) : Option Metadata := do
  let parts ← Json.parts? partNames j
  let name ← Json.partOr? parts "name" "" Json.text?
  let table ← Json.part? parts "table" TableDeclaration.ofJson?
  let columns ← Json.partOr? parts "columns" [] (Json.items? ColumnDeclaration.ofJson?)
  let relations ← Json.partOr? parts "relations" [] relationsOf?
  let options ← Json.partOr? parts "option" ⟨false, false⟩ ModelOptions.ofJson?
  some ⟨name, table, columns, relations, options⟩

/-- A declaration from JSON text. -/
def parse? (text : String) : Option Metadata := do
  ofJson? (← Json.parse? text)

end Metadata

end DataModel

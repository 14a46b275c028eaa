import DataModel.Query.Descriptor
import DataModel.Value.Json

/-! A filter node that has `wheres` is a group, any other a comparison. A node is read as a group first; when that
fails it is read as a comparison, so what does not fit either is refused. -/

namespace DataModel

namespace Where

mutual

/-- The tree of a filter node. -/
def toJson : Where → Json
  | leaf m c o v =>
    .obj [("method", .str m.name), ("column", .str c), ("op", .str o.name), ("value", v.toJson)]
  | group m ws => .obj [("method", .str m.name), ("wheres", .arr (toJsonAll ws))]

/-- The trees of filter nodes. -/
def toJsonAll : List Where → List Json
  | [] => []
  | w :: ws => toJson w :: toJsonAll ws

end

/-- A comparison from the members of a node. -/
def leafOf? (method : Conjunction) (members : Assoc Json) : Option Where := do
  let parts ← Json.parts? ["column", "op", "value"] (.obj members)
  let column ← Json.part? parts "column" Json.text?
  let op ← Json.partOr? parts "op" .eq (Json.choice? Operator.names)
  let value ← Json.partOr? parts "value" .null Value.ofJson?
  some (leaf method column op value)

/-- A filter node, at most `fuel` groups deep. -/
def ofJsonWithin? : Nat → Json → Option Where
  | 0, _ => none
  | fuel + 1, .obj members => do
    let parts ← Json.parts? ["method"] (.obj members)
    let method ← Json.partOr? parts "method" .and (Json.choice? Conjunction.names)
    let asGroup : Option Where := do
      let parts ← Json.parts? ["wheres"] (.obj members)
      let wheres ← Json.part? parts "wheres" (Json.items? (ofJsonWithin? fuel))
      some (group method wheres)
    asGroup <|> leafOf? method members
  | _ + 1, _ => none

/-- A filter node. All of its tree must be readable. -/
def ofJson? (j : Json) : Option Where :=
  if j.readable then ofJsonWithin? j.depth j else none

end Where

namespace Order

/-- The tree of an order. -/
def toJson (o : Order) : Json :=
  .obj [("column", .str o.column), ("direction", .str o.direction.name)]

/-- An order. -/
def ofJson? (j : Json) : Option Order := do
  let parts ← Json.parts? ["column", "direction"] j
  let column ← Json.part? parts "column" Json.text?
  let direction ← Json.partOr? parts "direction" .asc (Json.choice? Direction.names)
  some ⟨column, direction⟩

end Order

/-- The tree of an optional word. -/
def wordJson : Option UInt64 → Json
  | none => .null
  | some n => .nat n.toNat

/-- An unsigned 64-bit number. -/
def word? (j : Json) : Option UInt64 :=
  (Json.natural? (twoTo 64) j).map UInt64.ofNat

namespace Descriptor

mutual

/-- The tree of a request. -/
def toJson : Descriptor → Json
  | ⟨model, select, wheres, orders, limit, offset, withs, withTrashed⟩ =>
    .obj [("model", .ofText? model), ("select", .arr (select.map .str)),
      ("wheres", .arr (Where.toJsonAll wheres)), ("orders", .arr (orders.map Order.toJson)),
      ("limit", wordJson limit), ("offset", wordJson offset), ("withs", .obj (toJsonWiths withs)),
      ("with_trashed", .bool withTrashed)]

/-- The trees of eager-loads. -/
def toJsonWiths : List (String × With Descriptor) → List (String × Json)
  | [] => []
  | (name, ⟨relation, none⟩) :: ws =>
    (name, .obj [("relation", .ofText? relation), ("query", .null)]) :: toJsonWiths ws
  | (name, ⟨relation, some query⟩) :: ws =>
    (name, .obj [("relation", .ofText? relation), ("query", toJson query)]) :: toJsonWiths ws

end

/-- The names of the parts of a request in order. -/
def partNames : List String :=
  ["model", "select", "wheres", "orders", "limit", "offset", "withs", "with_trashed"]

/-- An eager-load, given how to read its query. -/
def withOf? (query? : Json → Option Descriptor) (j : Json) : Option (With Descriptor) := do
  let parts ← Json.parts? ["relation", "query"] j
  let relation ← Json.partOr? parts "relation" none (Json.optional? Json.text?)
  let query ← Json.partOr? parts "query" none (Json.optional? query?)
  some ⟨relation, query⟩

/-- Eager-loads by name; of a repeated name the last. -/
def withsOf? (query? : Json → Option Descriptor) : Json → Option (List (String × With Descriptor))
  | .obj members => do
    let ws ← members.mapM fun m => do some (m.1, ← withOf? query? m.2)
    some (Assoc.sortedByKey ws)
  | _ => none

/-- A request, at most `fuel` eager-loads deep. -/
def ofJsonWithin? : Nat → Json → Option Descriptor
  | 0, _ => none
  | fuel + 1, j => do
    let parts ← Json.parts? partNames j
    let model ← Json.partOr? parts "model" none (Json.optional? Json.text?)
    let select ← Json.partOr? parts "select" [] (Json.items? Json.text?)
    let wheres ← Json.partOr? parts "wheres" [] (Json.items? Where.ofJson?)
    let orders ← Json.partOr? parts "orders" [] (Json.items? Order.ofJson?)
    let limit ← Json.partOr? parts "limit" none (Json.optional? word?)
    let offset ← Json.partOr? parts "offset" none (Json.optional? word?)
    let withs ← Json.partOr? parts "withs" [] (withsOf? (ofJsonWithin? fuel))
    let withTrashed ← Json.partOr? parts "with_trashed" false Json.truth?
    some ⟨model, select, wheres, orders, limit, offset, withs, withTrashed⟩

/-- A request. -/
def ofJson? (j : Json) : Option Descriptor :=
  ofJsonWithin? (j.depth + 1) j

/-- A request from JSON text. -/
def parse? (text : String) : Option Descriptor := do
  ofJson? (← Json.parse? text)

end Descriptor

end DataModel

import DataModel.Query.Builder
import DataModel.Query.Compile
import DataModel.Query.Page
import DataModel.Registry
import DataModel.Store

/-!
# Answering requests

The rows of a request are read first; then every eager-load reads the related rows by key and puts
them onto their parents. Related rows are read the same way, so eager-loads nest. The relations on
the way down form a chain; one that comes again in its own chain is a cycle and refused.

A chain holds different relations of loaded models only, so it is never longer than there are such
relations; this bounds the depth of the recursion.
-/

namespace DataModel

/-- What requests are answered from: the loaded models and the store. -/
structure Library where
  registry : Registry
  store : Store

/-- A relation that was followed: the model that declares it, and its name. -/
structure Link where
  model : String
  relation : String
deriving DecidableEq, Repr

namespace Link

/-- The text of a link. -/
def text (l : Link) : String :=
  l.model ++ "." ++ l.relation

end Link

namespace Stitch

/-- The values that have a key, each key once, in the order of the first of each. -/
def distinctFrom : List String → List Value → List Value
  | _, [] => []
  | seen, v :: vs =>
    match v.key with
    | none => distinctFrom seen vs
    | some k => if seen.contains k then distinctFrom seen vs else v :: distinctFrom (k :: seen) vs

/-- The different keys in a column of rows. -/
def keysIn (column : String) (rows : List Record) : List Value :=
  distinctFrom [] (rows.filterMap fun r => r.get? column)

/-- The key of a row in a column. -/
def keyAt (column : String) (row : Record) : Option String :=
  (row.get? column).bind Value.key

/-- The rows whose key in a column is a given one. -/
def withKey (column : String) (key : Option String) (rows : List Record) : List Record :=
  match key with
  | none => []
  | some k => rows.filter fun r => keyAt column r = some k

/-- Put the first of the related rows onto a row, if there is one. -/
def attachOne (name localKey foreignKey : String) (children : List Record) (row : Record) : Record :=
  match withKey foreignKey (keyAt localKey row) children with
  | first :: _ => row.insert name (.map first)
  | [] => row

/-- Put the list of the related rows onto a row. -/
def attachMany (name localKey foreignKey : String) (children : List Record) (row : Record) : Record :=
  row.insert name (.list ((withKey foreignKey (keyAt localKey row) children).map .map))

/-- A related row with columns of the row that links it: the named ones, or all but the keys that the
related row does not have. -/
def inlined (pivot : Pivot) (link child : Record) : Record :=
  if pivot.columns.isEmpty then
    link.foldl
      (fun child e =>
        if e.1 = pivot.localKey ∨ e.1 = pivot.foreignKey ∨ child.has e.1 then child
        else child.insert e.1 e.2) child
  else pivot.columns.foldl (fun child c => child.insert c (link.cell c)) child

/-- Put onto a row the list of the rows that links lead to, in the order of the links. -/
def attachLinked (name localKey foreignKey : String) (pivot : Pivot) (links children : List Record)
    (row : Record) : Record :=
  let linked := (withKey pivot.localKey (keyAt localKey row) links).flatMap fun link =>
    (withKey foreignKey (keyAt pivot.foreignKey link) children).map fun child =>
      Value.map (inlined pivot link child)
  row.insert name (.list linked)

end Stitch

namespace Descriptor

/-- A request for the rows whose key is among some, with the key among the columns. -/
def forKeys (q : Descriptor) (column : String) (keys : List Value) : Descriptor :=
  (q.narrowed (.compare column .isIn (.list keys))).selecting
    (if q.select.isEmpty ∨ q.select.contains column then q.select else q.select ++ [column])

/-- The name of the relation that an eager-load asks for. -/
def relationName (load : String × With Descriptor) : String :=
  load.2.relation.getD load.1

/-- The keys that the eager-loads of a request need of the rows of a model. -/
def neededKeys (q : Descriptor) (m : Model) : List String :=
  q.withs.filterMap fun load => (m.relation? (relationName load)).map Relation.localKey

end Descriptor

namespace Model

/-- The failure of a key that a model does not have. -/
def requireColumn (m : Model) (relation column : String) : Except ModelError Unit :=
  if m.hasColumn column then .ok () else .error (.schema (.missingColumn relation m.name column))

/-- The pivot of a many-to-many relation, with a table and keys. -/
def pivotOf (m : Model) (name : String) (r : Relation) : Except ModelError Pivot :=
  match r.pivot with
  | none => .error (.schema (.incomplete m.name name .pivot))
  | some p =>
    if p.table.isEmpty then .error (.schema (.incomplete m.name name .table))
    else if p.localKey.isEmpty ∨ p.foreignKey.isEmpty then
      .error (.schema (.incomplete m.name name .keys))
    else .ok p

end Model

namespace Library

/-- A result of the store as a result of a model operation. -/
def ofStore {α : Type} : Except StoreError α → Except ModelError α
  | .ok a => .ok a
  | .error e => .error (.store e)

/-- The rows of a request to a model, read by a given way of answering requests. -/
abbrev Reader := Model → Descriptor → Except ModelError (List Record)

/-- The related rows for some keys; none are read when there are no keys. -/
def related (read : Reader) (m : Model) (q : Descriptor) (column : String) (keys : List Value) :
    Except ModelError (List Record) :=
  if keys.isEmpty then .ok [] else read m (q.forKeys column keys)

/-- The rows that link parents to related rows. -/
def links (l : Library) (pivot : Pivot) (keys : List Value) : Except ModelError (List Record) :=
  if keys.isEmpty then .ok []
  else ofStore (l.store.select pivot.table (.ofFilter [.compare pivot.localKey .isIn (.list keys)]))

/-- Put the related rows of a relation onto rows. -/
def follow (l : Library) (read : Reader) (m : Model) (name relation : String) (r : Relation) (other : Model)
    (q : Descriptor) (rows : List Record) : Except ModelError (List Record) := do
  let keys := Stitch.keysIn r.localKey rows
  match r.kind with
  | .oneToOne =>
    let children ← related read other q r.foreignKey keys
    .ok (rows.map (Stitch.attachOne name r.localKey r.foreignKey children))
  | .oneToMany =>
    let children ← related read other q r.foreignKey keys
    .ok (rows.map (Stitch.attachMany name r.localKey r.foreignKey children))
  | .manyToMany =>
    let pivot ← m.pivotOf relation r
    let links ← l.links pivot keys
    let children ← related read other q r.foreignKey (Stitch.keysIn pivot.foreignKey links)
    .ok (rows.map (Stitch.attachLinked name r.localKey r.foreignKey pivot links children))

/-- Put what an eager-load asks for onto rows. An eager-load of a relation that is not declared is
passed over. -/
def attach (l : Library) (read : List Link → Reader) (chain : List Link) (m : Model)
    (rows : List Record) (load : String × With Descriptor) : Except ModelError (List Record) :=
  let relation := Descriptor.relationName load
  if m.hasColumn load.1 then .error (.schema (.collision load.1 m.name))
  else
    match m.relation? relation with
    | none => .ok rows
    | some r => do
      let link : Link := ⟨m.name, relation⟩
      if chain.contains link then .error (.relationCycle ((chain ++ [link]).map Link.text))
      else
        match l.registry.get? r.model with
        | none => .error (.schema (.unknownModel m.name relation r.model))
        | some other => do
          m.requireColumn relation r.localKey
          other.requireColumn relation r.foreignKey
          let q := (load.2.query <|> r.query).getD .empty
          l.follow (read (chain ++ [link])) m load.1 relation r other q rows

/-- The rows of a request, with a given way of answering the requests for related rows. -/
def resolveWith (l : Library) (read : List Link → Reader) (chain : List Link) (m : Model) (q : Descriptor) :
    Except ModelError (List Record) := do
  let selection ← m.selection q (q.neededKeys m)
  let rows ← ofStore (l.store.select m.tableName selection)
  q.withs.foldlM (l.attach read chain m) rows

/-- The rows of a request. Below the allowed depth nothing is read and the chain is refused. -/
def resolve (l : Library) : Nat → List Link → Reader
  | 0, chain, _, _ => .error (.relationCycle (chain.map Link.text))
  | depth + 1, chain, m, q => l.resolveWith (l.resolve depth) chain m q

/-- The relations that a model declares. -/
def linksOf (m : Model) : List Link :=
  m.declared.relations.map fun r => ⟨m.name, r.1⟩

/-- How deep a request to a model can nest: once more than there are declared relations. -/
def depth (l : Library) (m : Model) : Nat :=
  ((l.registry.models.flatMap fun e => linksOf e.2) ++ linksOf m).length + 1

/-- The rows of a request to a model. -/
def run (l : Library) (m : Model) (q : Descriptor) : Except ModelError (List Record) :=
  l.resolve (l.depth m) [] m q

/-- How many rows a request to a model finds, whatever its window. -/
def count (l : Library) (m : Model) (q : Descriptor) : Except ModelError Nat := do
  ofStore (l.store.count m.tableName (← m.filter q))

/-- The rows of a page: those of the request in the window of the page. A window that starts after the
last row, or beyond the largest number, is empty. -/
def pageRows (l : Library) (m : Model) (q : Descriptor) (total page size : UInt64) :
    Except ModelError (List Record) :=
  match checkedMul? (page - 1) size with
  | some offset =>
    if offset < total then l.run m ((q.limitedTo size).startingAt offset) else .ok []
  | none => .ok []

/-- A page of the rows of a request. Pages are numbered from one; a size of zero stands for the usual
one. -/
def paginate (l : Library) (m : Model) (q : Descriptor) (page size : UInt64) : Except ModelError Page := do
  let page := max page 1
  let size := if size = 0 then Page.defaultSize else size
  let total := UInt64.ofNat (← l.count m q)
  .ok (.of total page size (← l.pageRows m q total page size))

/-- The model that a request names. -/
def modelFor (l : Library) (q : Descriptor) : Except ModelError Model :=
  match q.model with
  | some name => l.registry.find name
  | none => .error (.parse .noModelNamed)

end Library

end DataModel

import DataModel.Model
import DataModel.Query.Builder
import DataModel.Query.Selection

/-! A request is checked against a model: every column it names has to be one of the model's. The filter of a
model that marks deleted rows gets a guard against them, unless the request wants them. -/

namespace DataModel.Model

/-- The failure of a column that the model does not have. -/
def checkColumn (m : Model) (column : String) : Except ModelError Unit :=
  if m.hasColumn column then .ok () else .error (.unknownColumn m.name column)

mutual

/-- Check the columns of a node of a filter. -/
def checkWhere (m : Model) : Where → Except ModelError Unit
  | .leaf _ column _ _ => m.checkColumn column
  | .group _ wheres => checkWheres m wheres

/-- Check the columns of a filter in the order in which they stand. -/
def checkWheres (m : Model) : List Where → Except ModelError Unit
  | [] => .ok ()
  | w :: ws =>
    match checkWhere m w with
    | .ok () => checkWheres m ws
    | .error e => .error e

end

/-- The condition that a row is not marked as deleted. -/
def notDeleted : Where :=
  .compare deletedAt .isNull .null

/-- A filter that also keeps deleted rows out. -/
def guarded (wheres : List Where) : List Where :=
  if wheres.isEmpty then [notDeleted] else [.grouped wheres, notDeleted]

/-- The filter of a request. -/
def filter (m : Model) (q : Descriptor) : Except ModelError (List Where) := do
  m.checkWheres q.wheres
  .ok (if m.marksDeleted && !q.withTrashed then guarded q.wheres else q.wheres)

/-- Put keys that are not there yet at the end of a list of columns; a list without columns already
stands for all of them. -/
def withKeys (columns keys : List String) : List String :=
  if columns.isEmpty then []
  else keys.foldl (fun cs k => if cs.contains k then cs else cs ++ [k]) columns

/-- The request for the store, with the columns that the eager-loads need. -/
def selection (m : Model) (q : Descriptor) (keys : List String) : Except ModelError Selection := do
  q.select.forM m.checkColumn
  q.orders.forM fun o => m.checkColumn o.column
  let filter ← m.filter q
  .ok { columns := withKeys q.select keys, filter, orders := q.orders, limit := q.limit, offset := q.offset }

end DataModel.Model

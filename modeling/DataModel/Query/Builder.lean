import DataModel.Query.Descriptor

/-! Requests put together step by step. A later column list, limit or offset replaces an earlier one; conditions,
orders and eager-loads are added to those before. -/

namespace DataModel

namespace Where

/-- A comparison, joined with AND. -/
def compare (column : String) (op : Operator) (value : Value) : Where :=
  .leaf .and column op value

/-- A group, joined with AND. -/
def grouped (wheres : List Where) : Where :=
  .group .and wheres

end Where

namespace Descriptor

/-- The request for everything of a model. -/
def ofModel (name : String) : Descriptor :=
  { empty with model := some name }

/-- The same request for the given columns only. -/
def selecting (q : Descriptor) (columns : List String) : Descriptor :=
  { q with select := columns }

/-- The same request with one more node in its filter. -/
def having (q : Descriptor) (node : Where) : Descriptor :=
  { q with wheres := q.wheres ++ [node] }

/-- The same request with one more comparison, joined with AND. -/
def filtered (q : Descriptor) (column : String) (op : Operator) (value : Value) : Descriptor :=
  q.having (.compare column op value)

/-- The same request with one more comparison, joined with OR. -/
def orFiltered (q : Descriptor) (column : String) (op : Operator) (value : Value) : Descriptor :=
  q.having (Where.compare column op value).joinedByOr

/-- The same request with one more column to order by. -/
def orderedBy (q : Descriptor) (column : String) (direction : Direction) : Descriptor :=
  { q with orders := q.orders ++ [⟨column, direction⟩] }

/-- The same request for so many rows at most. -/
def limitedTo (q : Descriptor) (n : UInt64) : Descriptor :=
  { q with limit := some n }

/-- The same request without so many rows at its start. -/
def startingAt (q : Descriptor) (n : UInt64) : Descriptor :=
  { q with offset := some n }

/-- The same request with an eager-load under a name. -/
def loading (q : Descriptor) (name : String) (load : With Descriptor) : Descriptor :=
  { q with withs := Assoc.insertSorted q.withs name load }

/-- The same request for deleted rows too. -/
def includingTrashed (q : Descriptor) : Descriptor :=
  { q with withTrashed := true }

/-- The same request for the rows that also satisfy a condition; the filter there becomes a group. -/
def narrowed (q : Descriptor) (condition : Where) : Descriptor :=
  { q with wheres := condition :: (if q.wheres.isEmpty then [] else [.grouped q.wheres]) }

end Descriptor

end DataModel

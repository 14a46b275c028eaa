import DataModel.Query.Descriptor

namespace DataModel

/-- A fetch request to one table. No columns means all of them. -/
structure Selection where
  columns : List String
  filter : List Where
  orders : List Order
  limit : Option UInt64
  offset : Option UInt64

namespace Selection

/-- The rows that a filter lets through. -/
def ofFilter (filter : List Where) : Selection :=
  ⟨[], filter, [], none, none⟩

end Selection

namespace Descriptor

/-- A request as written, without its eager-loads. -/
def selection (q : Descriptor) : Selection :=
  ⟨q.select, q.wheres, q.orders, q.limit, q.offset⟩

end Descriptor

end DataModel

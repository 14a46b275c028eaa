import DataModel.Value.Json

/-! One page of a longer result, with indicators of the pages around it. Counts, page numbers and sizes are
unsigned 64-bit numbers; an indicator is a signed one, with `-1` for "no such page". -/

namespace DataModel

/-- The product, or the largest word when it does not fit. -/
def saturatingMul (a b : UInt64) : UInt64 :=
  if a.toNat * b.toNat < twoTo 64 then a * b else 0xffffffffffffffff

/-- The product, if it fits. -/
def checkedMul? (a b : UInt64) : Option UInt64 :=
  if a.toNat * b.toNat < twoTo 64 then some (a * b) else none

/-- The least number of groups of `size` that hold `total`, for `size` not zero. -/
def ceilingDiv (total size : UInt64) : UInt64 :=
  if total % size = 0 then total / size else total / size + 1

/-- One page of a result. -/
structure Page where
  total : UInt64
  page : UInt64
  next : Int64
  prev : Int64
  pageSize : UInt64
  pages : UInt64
  data : List Record

namespace Page

/-- The size of a page when none is asked for. -/
def defaultSize : UInt64 :=
  15

/-- The number of the page after `page`, if rows follow it and the number is a signed word. -/
def nextOf (total page size : UInt64) : Int64 :=
  if saturatingMul page size < total ∧ page.toNat + 1 < twoTo 63 then Int64.ofNat (page.toNat + 1)
  else -1

/-- The number of the page before `page`, held within the signed words. -/
def prevOf (page : UInt64) : Int64 :=
  if 1 < page then Int64.ofNat (min (page.toNat - 1) (twoTo 63 - 1)) else -1

/-- A page of a result with `total` rows. A size of zero counts as one. -/
def of (total page size : UInt64) (data : List Record) : Page :=
  { total, page, pageSize := size, data
    next := nextOf total page size
    prev := prevOf page
    pages := ceilingDiv total (max size 1) }

/-- The tree of a page. -/
def toJson (p : Page) : Json :=
  .obj [("total", .nat p.total.toNat), ("page", .nat p.page.toNat), ("next", .int p.next.toInt),
    ("prev", .int p.prev.toInt), ("pagesize", .nat p.pageSize.toNat), ("pages", .nat p.pages.toNat),
    ("data", .arr (p.data.map fun r => (Value.map r).toJson))]

end Page

end DataModel

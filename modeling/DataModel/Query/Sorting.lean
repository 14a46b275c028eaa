import DataModel.Query.Descriptor
import DataModel.Value.Order

/-! Rows are ordered by the first column on which they differ; rows that do not differ keep their places. -/

namespace DataModel

/-- An order seen from the given direction. -/
def Direction.apply : Direction → Ordering → Ordering
  | .asc, o => o
  | .desc, o => o.swap

namespace Record

/-- The order of two rows. Cells that do not compare count as equal. -/
def compareBy : List Order → Record → Record → Ordering
  | [], _, _ => .eq
  | o :: orders, a, b =>
    match o.direction.apply (((cell a o.column).order (cell b o.column)).getD .eq) with
    | .eq => compareBy orders a b
    | r => r

/-- Put a row into rows that stand last first, after all that are not greater. -/
def insertLast (compare : Record → Record → Ordering) (row : Record) : List Record → List Record
  | [] => [row]
  | last :: earlier =>
    if compare row last = .lt then last :: insertLast compare row earlier else row :: last :: earlier

/-- Rows in order. -/
def sortedBy (orders : List Order) (rows : List Record) : List Record :=
  if orders.isEmpty then rows
  else (rows.foldl (fun sorted row => insertLast (compareBy orders) row sorted) []).reverse

end Record

end DataModel

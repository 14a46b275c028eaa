import DataModel.Query.Operator
import DataModel.Value

/-! A declarative fetch request: which columns, which rows, in which order, which window of them, and which
related rows to load with them. -/

namespace DataModel

/-- A node of a filter. -/
inductive Where where
  | leaf (method : Conjunction) (column : String) (op : Operator) (value : Value)
  | group (method : Conjunction) (wheres : List Where)

/-- A column to order by. -/
structure Order where
  column : String
  direction : Direction
deriving DecidableEq

/-- A request to load related rows: the relation, when it is not the name the request stands under,
and the query for them, when it is not the relation's own. -/
structure With (Query : Type) where
  relation : Option String
  query : Option Query

/-- A fetch request. No selected columns means all of them. The eager-loads are ordered by name. -/
structure Descriptor where
  model : Option String
  select : List String
  wheres : List Where
  orders : List Order
  limit : Option UInt64
  offset : Option UInt64
  withs : List (String × With Descriptor)
  withTrashed : Bool

namespace Where

mutual

/-- Equality of filter nodes. -/
def same : Where → Where → Bool
  | leaf m c o v, leaf m' c' o' v' => m = m' && c = c' && o = o' && v.same v'
  | group m ws, group m' ws' => m = m' && sameAll ws ws'
  | _, _ => false

/-- Equality of lists of filter nodes. -/
def sameAll : List Where → List Where → Bool
  | [], [] => true
  | w :: ws, w' :: ws' => same w w' && sameAll ws ws'
  | _, _ => false

end

/-- The conjunction of a node. -/
def method : Where → Conjunction
  | leaf m _ _ _ => m
  | group m _ => m

/-- The same node joined with OR. -/
def joinedByOr : Where → Where
  | leaf _ c o v => leaf .or c o v
  | group _ ws => group .or ws

end Where

namespace Descriptor

/-- The request for everything. -/
def empty : Descriptor :=
  ⟨none, [], [], [], none, none, [], false⟩

mutual

/-- Equality of requests. -/
def same : Descriptor → Descriptor → Bool
  | ⟨m, s, w, o, l, f, ws, t⟩, ⟨m', s', w', o', l', f', ws', t'⟩ =>
    m = m' && s = s' && Where.sameAll w w' && o = o' && l = l' && f = f' && sameWiths ws ws' && t = t'

/-- Equality of the eager-loads of requests. -/
def sameWiths : List (String × With Descriptor) → List (String × With Descriptor) → Bool
  | [], [] => true
  | (n, ⟨r, none⟩) :: ws, (n', ⟨r', none⟩) :: ws' => n = n' && r = r' && sameWiths ws ws'
  | (n, ⟨r, some q⟩) :: ws, (n', ⟨r', some q'⟩) :: ws' =>
    n = n' && r = r' && same q q' && sameWiths ws ws'
  | _, _ => false

end

end Descriptor

end DataModel

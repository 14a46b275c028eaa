import DataModel.Json.Shape

/-! The words of a query: how a cell is compared, how a condition joins those before it, and which way rows are
ordered. Each has the names it may be read by, the first of them the one it is written as, and its SQL. -/

namespace DataModel

/-- How a cell is compared with an operand. -/
inductive Operator where
  | eq
  | ne
  | gt
  | ge
  | lt
  | le
  | like
  | isIn
  | isNull
  | notNull
deriving DecidableEq, Repr

/-- How a condition joins the conditions before it. -/
inductive Conjunction where
  | and
  | or
deriving DecidableEq, Repr

/-- Which way rows are ordered. -/
inductive Direction where
  | asc
  | desc
deriving DecidableEq, Repr

namespace Operator

/-- The name an operator is written as. -/
def name : Operator → String
  | eq => "eq"
  | ne => "ne"
  | gt => "gt"
  | ge => "ge"
  | lt => "lt"
  | le => "le"
  | like => "like"
  | isIn => "in"
  | isNull => "null"
  | notNull => "notnull"

/-- The names an operator may be read by. -/
def names : List (String × Operator) :=
  [("eq", eq), ("=", eq), ("ne", ne), ("!=", ne), ("<>", ne), ("gt", gt), (">", gt), ("ge", ge),
   (">=", ge), ("lt", lt), ("<", lt), ("le", le), ("<=", le), ("like", like), ("in", isIn),
   ("null", isNull), ("notnull", notNull), ("not_null", notNull)]

/-- The operator in SQL. -/
def sql : Operator → String
  | eq => "="
  | ne => "<>"
  | gt => ">"
  | ge => ">="
  | lt => "<"
  | le => "<="
  | like => "LIKE"
  | isIn => "IN"
  | isNull => "IS NULL"
  | notNull => "IS NOT NULL"

theorem lookup_name (op : Operator) : names.lookup op.name = some op := by
  cases op <;> decide

end Operator

namespace Conjunction

/-- The name a conjunction is written as. -/
def name : Conjunction → String
  | and => "where"
  | or => "orwhere"

/-- The names a conjunction may be read by. -/
def names : List (String × Conjunction) :=
  [("where", and), ("and", and), ("orwhere", or), ("or", or)]

/-- The conjunction in SQL. -/
def sql : Conjunction → String
  | and => "AND"
  | or => "OR"

theorem lookup_name (c : Conjunction) : names.lookup c.name = some c := by
  cases c <;> decide

end Conjunction

namespace Direction

/-- The name a direction is written as. -/
def name : Direction → String
  | asc => "asc"
  | desc => "desc"

/-- The names a direction may be read by. -/
def names : List (String × Direction) :=
  [("asc", asc), ("desc", desc)]

/-- The direction in SQL. -/
def sql : Direction → String
  | asc => "ASC"
  | desc => "DESC"

theorem lookup_name (d : Direction) : names.lookup d.name = some d := by
  cases d <;> decide

end Direction

end DataModel

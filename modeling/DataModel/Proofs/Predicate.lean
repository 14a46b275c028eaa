import DataModel.Proofs.Token

/-!
# Predicates of SQL on whole numbers and texts

A predicate as it is read from the tokens of a comparison, and its truth on a row with values for its parameters.
Truth has three values: nothing is known of a comparison with a null, and nothing of one with a parameter that its
cast refuses, as a number out of the range of the column's type. A predicate restricts a statement to the rows on
which it is true.
-/

namespace DataModel.Sql

/-- A predicate. A parameter has a number and, if it is cast, a type. -/
inductive Predicate where
  | isNull (column : String)
  | isNotNull (column : String)
  | compared (column : String) (op : String) (number : Nat) (type : String)
  | like (column : String) (number : Nat)
  | among (column : String) (items : List (Nat × String))
  /-- An equation of two numerals. -/
  | equation (left right : String)
deriving DecidableEq, Repr

/-- Parameters with commas between them, and the parenthesis after them. -/
def items? : List Token → Option (List (Nat × String))
  | [.param n, .word type, .closing] => some [(n, type)]
  | .param n :: .word type :: .comma :: ts => (items? ts).map fun items => (n, type) :: items
  | _ => none

/-- The predicate of some tokens. -/
def predicate? : List Token → Option Predicate
  | [.name c, .word "IS", .word "NULL"] => some (.isNull c)
  | [.name c, .word "IS", .word "NOT", .word "NULL"] => some (.isNotNull c)
  | [.name c, .word "::text", .word "LIKE", .param n] => some (.like c n)
  | [.name c, .word op, .param n, .word type] => some (.compared c op n type)
  | .name c :: .word "IN" :: .opening :: ts => (items? ts).map (.among c)
  | [.word a, .word "=", .word b] => some (.equation a b)
  | _ => none

/-- What is compared: whole numbers and texts. -/
inductive Datum where
  | whole (n : Int64)
  | text (s : String)
deriving DecidableEq, Repr

/-- The least and the greatest number of a type. -/
def range? : String → Option (Int × Int)
  | "::smallint" => some (-32768, 32767)
  | "::integer" => some (-2147483648, 2147483647)
  | "::bigint" => some (-9223372036854775808, 9223372036854775807)
  | _ => none

/-- Whether a number is in the range of a type. -/
def fits (type : String) (n : Int64) : Prop :=
  ∃ r ∈ range? type, r.1 ≤ n.toInt ∧ n.toInt ≤ r.2

instance (type : String) (n : Int64) : Decidable (fits type n) :=
  inferInstanceAs (Decidable (∃ r ∈ range? type, _))

namespace Datum

/-- A datum as a cell. -/
def value : Datum → Value
  | whole n => .int n
  | text s => .text s

/-- The datum in a cell, if there is one. -/
def ofCell? : Value → Option Datum
  | .int n => some (whole n)
  | .text s => some (text s)
  | _ => none

/-- The text of a datum. -/
def toText : Datum → String
  | whole n => Numeral.int64Text n
  | text s => s

/-- The order of two data of one kind. -/
def order? : Datum → Datum → Option Ordering
  | whole a, whole b => some (compare a.toInt b.toInt)
  | text a, text b => some (compare a b)
  | _, _ => none

end Datum

/-- What a cast makes of a parameter. Null stays null, and a number out of the range of the type is refused. -/
def castTo? (type : String) : Value → Option Datum
  | .int n =>
    if type = "::text" then some (.text (Numeral.int64Text n))
    else if fits type n then some (.whole n)
    else none
  | .text s => if type = "::text" then some (.text s) else none
  | _ => none

/-- What an operator says about the order of its sides. -/
def decides? (op : String) (o : Ordering) : Option Bool :=
  match op with
  | "=" => some (o == .eq)
  | "<>" => some (o != .eq)
  | ">" => some (o == .gt)
  | ">=" => some (o != .lt)
  | "<" => some (o == .lt)
  | "<=" => some (o != .gt)
  | _ => none

/-- The truth of a comparison of a cell with a parameter. -/
def compared? (type op : String) (cell operand : Value) : Option Bool := do
  let a ← Datum.ofCell? cell
  let b ← castTo? type operand
  decides? op (← a.order? b)

/-- The truth of a disjunction. -/
def anyOf (truths : List (Option Bool)) : Option Bool :=
  if some true ∈ truths then some true else if none ∈ truths then none else some false

/-- The truth of a predicate on a row; `none` when it is unknown. -/
def Predicate.truth? (row : Record) (params : Nat → Option Value) : Predicate → Option Bool
  | isNull c => some (row.cell c).isNull
  | isNotNull c => some !(row.cell c).isNull
  | compared c op n type => (params n).bind (compared? type op (row.cell c))
  | like c n => do
    let a ← Datum.ofCell? (row.cell c)
    let pattern ← (← params n).text?
    some (Like.isMatch a.toText pattern)
  | among c items => anyOf (items.map fun i => (params i.1).bind (compared? i.2 "=" (row.cell c)))
  | equation a b => some (a = b)

/-- The value of a parameter, when the first of some has the given number. -/
def paramAt (n : Nat) (values : List Value) (i : Nat) : Option Value :=
  if n ≤ i then values[i - n]? else none

/-- The numbers of parameters with the type each is cast to. -/
def numbered (type : String) : Nat → List Value → List (Nat × String)
  | _, [] => []
  | n, _ :: vs => (n, type) :: numbered type (n + 1) vs

/-- The predicate of a comparison with a column whose parameters are cast to a type. -/
def predicateOf (type : String) (n : Nat) (column : String) (op : Operator) (operand : Value) : Predicate :=
  match op with
  | .isNull => .isNull column
  | .notNull => .isNotNull column
  | .eq => if operand.isNull then .isNull column else .compared column "=" n type
  | .ne => if operand.isNull then .isNotNull column else .compared column "<>" n type
  | .like => .like column n
  | .isIn =>
    match operands operand with
    | [] => .equation "1" "0"
    | items => .among column (numbered type n items)
  | op => .compared column op.sql n type

theorem items?_listTokens {kind : Option Kind} {type : String} (h : castTokens kind = [.word type]) (n : Nat)
    {items : List Value} (hne : items ≠ []) :
    items? (listTokens kind n items ++ [.closing]) = some (numbered type n items) := by
  induction items generalizing n with
  | nil => exact absurd rfl hne
  | cons v vs ih =>
    cases vs with
    | nil => rw [listTokens, h]; rfl
    | cons w vs =>
      have hitems := ih (n + 1) (List.cons_ne_nil w vs)
      have hlist : listTokens kind n (v :: w :: vs) ++ [.closing] =
          .param n :: .word type :: .comma :: (listTokens kind (n + 1) (w :: vs) ++ [.closing]) := by
        simp [listTokens, h]
      rw [hlist, items?, hitems]
      rfl

/-- The predicate that a comparison is written as. -/
theorem predicate?_comparison {t : TableSchema} {column type : String}
    (h : castTokens (t.kind? column) = [.word type]) (n : Nat) (op : Operator) (operand : Value) :
    predicate? (tokens ((comparison t column op operand).textFrom n)) =
      some (predicateOf type n column op operand) := by
  have hplain : ∀ w : String, predicate? (.name column :: .word w :: .param n :: castTokens (t.kind? column)) =
      some (.compared column w n type) := by
    intro w
    rw [h]
    simp [predicate?]
  rw [tokens_comparison]
  cases op with
  | isNull => rfl
  | notNull => rfl
  | eq =>
    cases hv : operand.isNull with
    | true => simp [comparisonTokens, predicateOf, hv, predicate?]
    | false => simpa [comparisonTokens, predicateOf, Operator.sql, hv] using hplain "="
  | ne =>
    cases hv : operand.isNull with
    | true => simp [comparisonTokens, predicateOf, hv, predicate?]
    | false => simpa [comparisonTokens, predicateOf, Operator.sql, hv] using hplain "<>"
  | gt => exact hplain ">"
  | ge => exact hplain ">="
  | lt => exact hplain "<"
  | le => exact hplain "<="
  | like => rfl
  | isIn =>
    cases hitems : operands operand with
    | nil => simp [comparisonTokens, predicateOf, hitems, predicate?]
    | cons v vs =>
      have hlist := items?_listTokens h n (List.cons_ne_nil v vs)
      simp [comparisonTokens, predicateOf, hitems, predicate?, hlist]

/-- The truth on a row of what a comparison is written as, when its first parameter has a number. -/
def writtenTruth? (t : TableSchema) (n : Nat) (row : Record) (column : String) (op : Operator) (operand : Value) :
    Option Bool :=
  (predicate? (tokens ((comparison t column op operand).textFrom n))).bind
    (Predicate.truth? row (paramAt n (comparison t column op operand).params))

theorem paramAt_self (n : Nat) (v : Value) (vs : List Value) : paramAt n (v :: vs) n = some v := by
  simp [paramAt]

theorem paramAt_cons {n i : Nat} (v : Value) (vs : List Value) (h : n < i) :
    paramAt n (v :: vs) i = paramAt (n + 1) vs i := by
  have hi : i - n = (i - (n + 1)) + 1 := by omega
  rw [paramAt, paramAt, if_pos (by omega), if_pos (by omega), hi, List.getElem?_cons_succ]

theorem params_joined (t : TableSchema) (column : String) (items : List Value) :
    (joined ", " (items.map fun v => [param t column v])).params = items := by
  induction items with
  | nil => rfl
  | cons v vs ih =>
    cases vs with
    | nil => rfl
    | cons w vs =>
      rw [List.map_cons, List.map_cons, joined, params_append]
      exact congrArg (List.cons v) ih

theorem le_of_mem_numbered {type : String} {n : Nat} {items : List Value} {i : Nat × String}
    (h : i ∈ numbered type n items) : n ≤ i.1 := by
  induction items generalizing n with
  | nil => exact absurd h List.not_mem_nil
  | cons v vs ih =>
    rw [numbered, List.mem_cons] at h
    rcases h with rfl | h
    · exact Nat.le_refl n
    · exact Nat.le_of_succ_le (ih h)

/-- Each item of a list is compared through its own parameter. -/
theorem map_numbered (type : String) (n : Nat) (items : List Value) (f : String → Value → Option Bool) :
    ((numbered type n items).map fun i => (paramAt n items i.1).bind (f i.2)) = items.map (f type) := by
  induction items generalizing n with
  | nil => rfl
  | cons v vs ih =>
    have hlater : ((numbered type (n + 1) vs).map fun i => (paramAt n (v :: vs) i.1).bind (f i.2)) =
        (numbered type (n + 1) vs).map fun i => (paramAt (n + 1) vs i.1).bind (f i.2) := by
      refine List.map_congr_left fun i hi => ?_
      rw [paramAt_cons v vs (le_of_mem_numbered hi)]
    rw [numbered, List.map_cons, List.map_cons, hlater, ih, paramAt_self]
    rfl

end DataModel.Sql

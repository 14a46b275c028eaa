import DataModel.Proofs.Comparison
import DataModel.Proofs.Ranking

/-!
# The operators of a filter are read off one order

A cell is tested for equality, compared and looked up in a list in three ways, each after the operand has been turned
into text where the cell is a text. Still they say the same: two values that are not both lists and not both maps, and
of which none is NaN, are in one of three relations, and every operator is true of some of these. A list is asked for
as its items are, one by one. A null cell is null, is equal to null, and passes no other test.
-/

namespace DataModel

namespace Value

variable {a b cell operand v : Value}

/-- Whether two values have an order: none of them is NaN, and they are not both lists and not both maps. -/
def Compares (a b : Value) : Prop :=
  a.isNaN = false ∧ b.isNaN = false ∧ ¬(a.list?.isSome = true ∧ b.list?.isSome = true) ∧
    ¬(a.record?.isSome = true ∧ b.record?.isSome = true)

theorem exists_order (h : Compares a b) : ∃ o, a.order b = some o := by
  obtain ⟨ha, hb, hlists, hmaps⟩ := h
  by_cases hrank : a.rank = b.rank
  · -- values of one kind are compared by what they hold
    match a, b with
    | null, null => exact ⟨_, rfl⟩
    | bool _, bool _ => exact ⟨_, rfl⟩
    | text _, text _ => exact ⟨_, rfl⟩
    | int _, int _ => exact ⟨_, rfl⟩
    | int m, float y => exact ⟨_, Binary64.order_eq_some (isNaN_ofInt m) hb⟩
    | float x, int n => exact ⟨_, Binary64.order_eq_some ha (isNaN_ofInt n)⟩
    | float x, float y => exact ⟨_, Binary64.order_eq_some ha hb⟩
    | list _, list _ => exact absurd ⟨rfl, rfl⟩ hlists
    | map _, map _ => exact absurd ⟨rfl, rfl⟩ hmaps
  · exact ⟨_, order_of_rank_ne hrank⟩

theorem same_of_rank_ne (h : a.rank ≠ b.rank) : a.same b = false := by
  cases a <;> cases b <;> first | exact absurd rfl h | rfl

/-- What is equal is what does not differ in the order, as long as there is one. -/
theorem looseEq_iff_order (h : Compares a b) : a.looseEq b = true ↔ a.order b = some .eq := by
  obtain ⟨-, -, hlists, hmaps⟩ := h
  by_cases hrank : a.rank = b.rank
  · match a, b with
    | null, null => exact iff_of_true rfl rfl
    | bool b, bool c => simp [looseEq, rank, same, order]
    | text s, text t => simp [looseEq, rank, same, order]
    | int _, int _ => simp [looseEq, rank]
    | int _, float _ => simp [looseEq, rank]
    | float _, int _ => simp [looseEq, rank]
    | float _, float _ => simp [looseEq, rank]
    | list _, list _ => exact absurd ⟨rfl, rfl⟩ hlists
    | map _, map _ => exact absurd ⟨rfl, rfl⟩ hmaps
  · have hnumbers : ¬(a.rank = 2 ∧ b.rank = 2) := fun h => hrank (h.1.trans h.2.symm)
    rw [looseEq, if_neg hnumbers, same_of_rank_ne hrank, order_of_rank_ne hrank, Option.some.injEq]
    exact iff_of_false Bool.false_ne_true (mt Nat.compare_eq_eq.1 hrank)

/-- An operand has an order with a cell also after it has been turned into text for it. -/
theorem Compares.operandFor (h : Compares cell operand) : Compares cell (operandFor cell operand) := by
  cases cell with
  | text s =>
    refine ⟨rfl, ?_, fun hlists => Bool.false_ne_true hlists.1, fun hmaps => Bool.false_ne_true hmaps.1⟩
    cases operand with
    | list items =>
      rw [Value.operandFor, asText]
      split <;> rfl
    | _ => rfl
  | _ => exact h

theorem looseEq_null (h : cell.isNull = false) : cell.looseEq null = false := by
  cases cell <;> first | rfl | cases h

/-- What is no scalar is not equal to a text any more than before when it is turned into text. -/
theorem looseEq_asText (s : String) (hv : v.isScalar = false) : (text s).looseEq v.asText = (text s).looseEq v := by
  cases v with
  | list items =>
    rw [asText]
    split <;> rfl
  | null => rfl
  | text t => rfl
  | map entries => rfl
  | _ => cases hv

/-- A list is searched for a cell as its items are compared with the cell one by one. -/
theorem isAmong_operandFor_list (cell : Value) (items : List Value) :
    cell.isAmong (operandFor cell (list items)) = items.any fun v => cell.looseEq (operandFor cell v) := by
  cases cell with
  | text s =>
    rw [operandFor, asText]
    split
    next =>
      rw [isAmong, Sql.asTexts_eq_map, List.any_map]
      rfl
    next hscalars =>
      -- without a scalar in it the list is searched as it is
      rw [isAmong, Bool.eq_iff_iff, List.any_eq_true, List.any_eq_true]
      refine exists_congr fun v => and_congr_right fun hv => ?_
      have hscalar : v.isScalar = false :=
        Bool.eq_false_iff.2 fun h => hscalars (List.any_eq_true.2 ⟨v, hv, h⟩)
      rw [operandFor, looseEq_asText s hscalar]
  | _ => rfl

/-- What is no list stays none when it is turned into text. -/
theorem isAmong_operandFor (h : operand.list? = none) :
    cell.isAmong (operandFor cell operand) = cell.looseEq (operandFor cell operand) := by
  cases operand with
  | list items => cases h
  | _ => cases cell <;> rfl

/-- A scalar next to a text is the text it is shown as. -/
theorem asText_of_isScalar (h : v.isScalar = true) : v.asText = text v.display := by
  cases v with
  | bool _ | int _ | float _ => rfl
  | _ => cases h

end Value

namespace Operator

variable {op : Operator} {cell operand : Value}

/-- The operator that is true of two values in a relation. -/
def ofOrdering : Ordering → Operator
  | .lt => lt
  | .eq => eq
  | .gt => gt

/-- What the operators say of a cell and an operand fits together. -/
structure Coheres (cell operand : Value) : Prop where
  /-- The cell is either less than the operand, or equal to it, or greater. -/
  exists_unique : ∃! op : Operator, op ∈ [lt, eq, gt] ∧ op.holds cell operand = true
  ne_eq : ne.holds cell operand = !eq.holds cell operand
  ge_eq : ge.holds cell operand = (gt.holds cell operand || eq.holds cell operand)
  le_eq : le.holds cell operand = (lt.holds cell operand || eq.holds cell operand)
  isNull_eq : isNull.holds cell operand = false
  notNull_eq : notNull.holds cell operand = true
  /-- One of a list is asked for as each of its items is; null is not. -/
  isIn_list : ∀ items, operand = .list items →
    isIn.holds cell operand = items.any fun v => !v.isNull && eq.holds cell v
  /-- One of what is no list is that value itself. -/
  isIn_other : operand.list? = none → isIn.holds cell operand = eq.holds cell operand
  /-- A text is compared with a truth value or a number as with the text this is shown as. -/
  of_text : ∀ s, cell = .text s → operand.isScalar = true →
    ∀ op : Operator, op.holds cell operand = op.holds cell (.text operand.display)

/-- A comparison of two values of which none is null. -/
theorem holds_eq_compares (hcell : cell.isNull = false) (hoperand : operand.isNull = false) (op : Operator) :
    op.holds cell operand = op.compares cell (Value.operandFor cell operand) := by
  cases op <;> simp [holds, compares, hcell, hoperand]

/-- Of less, equal and greater the one is true that the order tells. -/
theorem holds_ofOrdering (hcell : cell.isNull = false) (hoperand : operand.isNull = false)
    (h : cell.Compares operand) (o : Ordering) :
    (ofOrdering o).holds cell operand = true ↔ cell.order (Value.operandFor cell operand) = some o := by
  rw [holds_eq_compares hcell hoperand]
  cases o with
  | lt => exact decide_eq_true_iff
  | eq => exact Value.looseEq_iff_order h.operandFor
  | gt => exact decide_eq_true_iff

theorem exists_unique_holds (hcell : cell.isNull = false) (hoperand : operand.isNull = false)
    (h : cell.Compares operand) : ∃! op : Operator, op ∈ [lt, eq, gt] ∧ op.holds cell operand = true := by
  have hholds := holds_ofOrdering hcell hoperand h
  obtain ⟨o, ho⟩ := Value.exists_order h.operandFor
  refine ⟨ofOrdering o, ⟨by cases o <;> decide, (hholds o).2 ho⟩, fun op hop => ?_⟩
  obtain ⟨p, rfl⟩ : ∃ p, op = ofOrdering p := by
    simpa [Ordering.exists, ofOrdering] using hop.1
  have hp : cell.order (Value.operandFor cell operand) = some p := (hholds p).1 hop.2
  rw [Option.some.inj (hp.symm.trans ho)]

/-- Whether a list has a cell, item by item; null is never asked for. -/
theorem isIn_holds_list (hcell : cell.isNull = false) (items : List Value) :
    isIn.holds cell (.list items) = items.any fun v => !v.isNull && eq.holds cell v := by
  have hitem : ∀ v : Value, cell.looseEq (Value.operandFor cell v) = (!v.isNull && eq.holds cell v) := by
    intro v
    cases hv : v.isNull with
    | true =>
      have hnull : Value.operandFor cell .null = .null := by cases cell <;> rfl
      rw [Value.eq_null hv, hnull, Value.looseEq_null hcell, Bool.not_true, Bool.false_and]
    | false =>
      rw [holds_eq_compares hcell hv, Bool.not_false, Bool.true_and, compares]
  rw [holds_eq_compares hcell rfl, compares, Value.isAmong_operandFor_list]
  simp only [hitem]

/-- A truth value or a number is to a text what the text is that it is shown as. -/
theorem holds_text (s : String) (h : operand.isScalar = true) (op : Operator) :
    op.holds (.text s) operand = op.holds (.text s) (.text operand.display) := by
  have hoperand : operand.isNull = false := by cases operand <;> first | rfl | cases h
  have hfor : Value.operandFor (.text s) operand = Value.operandFor (.text s) (.text operand.display) :=
    Value.asText_of_isScalar h
  rw [holds_eq_compares rfl hoperand, holds_eq_compares rfl rfl, hfor]

/-- A null cell is null, is equal to null, and passes no other test. -/
theorem holds_null_iff (h : cell.isNull = true) :
    op.holds cell operand = true ↔ op = isNull ∨ op = eq ∧ operand.isNull = true := by
  cases op <;> simp [holds, h]

theorem coheres (hcell : cell.isNull = false) (hoperand : operand.isNull = false) (h : cell.Compares operand) :
    Coheres cell operand := by
  have heq : cell.looseEq (Value.operandFor cell operand) =
      decide (cell.order (Value.operandFor cell operand) = some .eq) :=
    Bool.eq_iff_iff.2 ((Value.looseEq_iff_order h.operandFor).trans decide_eq_true_iff.symm)
  have hcompares := holds_eq_compares hcell hoperand
  exact {
    exists_unique := exists_unique_holds hcell hoperand h
    ne_eq := by rw [hcompares, hcompares, compares, compares]
    ge_eq := by rw [hcompares, hcompares, hcompares, compares, compares, compares, heq]
    le_eq := by rw [hcompares, hcompares, hcompares, compares, compares, compares, heq]
    isNull_eq := hcompares isNull
    notNull_eq := hcompares notNull
    isIn_list := fun items hitems => hitems ▸ isIn_holds_list hcell items
    isIn_other := fun hlist => by
      rw [hcompares, hcompares, compares, compares, Value.isAmong_operandFor hlist]
    of_text := fun s hs hscalar op => hs ▸ holds_text s hscalar op }

/-- The operators of a filter say together what one order of the values says. -/
theorem holds_consistent (cell operand : Value) :
    (cell.isNull = false → operand.isNull = false → cell.Compares operand → Coheres cell operand) ∧
      ∀ op : Operator, cell.isNull = true →
        (op.holds cell operand = true ↔ op = isNull ∨ op = eq ∧ operand.isNull = true) :=
  ⟨coheres, fun _ => holds_null_iff⟩

end Operator

namespace Sample

/-- A text has an order with a list that has a number in it, and is found there by the number's text. -/
theorem text_among_numbers :
    Value.Compares (.text "10") (.list [.null, .int 10]) ∧
      Operator.isIn.holds (.text "10") (.list [.null, .int 10]) = true ∧
      Operator.Coheres (.text "10") (.list [.null, .int 10]) ∧
      (Operator.ne.holds .null (.int 10) = true ↔
        Operator.ne = .isNull ∨ Operator.ne = .eq ∧ (Value.int 10).isNull = true) := by
  have hcompares : Value.Compares (.text "10") (.list [.null, .int 10]) := by
    refine ⟨rfl, rfl, ?_, ?_⟩ <;> rintro ⟨h, -⟩ <;> cases h
  refine ⟨hcompares, by decide +kernel, ?_, ?_⟩
  · exact (Operator.holds_consistent _ _).1 rfl rfl hcompares
  · exact (Operator.holds_consistent _ _).2 .ne rfl

end Sample

end DataModel

import DataModel.Proofs.Key
import DataModel.Proofs.Predicate

/-!
# Comparisons in memory and in SQL

The comparison of a cell with an operand as it is made in memory, next to the predicate that is written for
it. On columns of whole numbers and of texts both say the same, but for these: in memory everything that is
not null is above null, a number is like no pattern, nothing is like null, and a number out of the range of
its column's type is compared and not refused. `Strays` has these cases.
-/

namespace DataModel

namespace Like

/-- The answer that comes of laying a pattern at the start of a text. -/
def Fit.answer {p : List Char} : Fit p → Bool
  | done b => b
  | run rest _ text => afterRun rest text
  | clash => false

theorem Fit.answer_weaken {p : List Char} (d : Char) (f : Fit p) : (f.weaken d).answer = f.answer := by
  cases f <;> rfl

theorem isMatch_eq (text pattern : String) : isMatch text pattern = (fit pattern.toList text.toList).answer := by
  rw [isMatch]
  cases fit pattern.toList text.toList <;> rfl

theorem fit_literal {p : List Char} (h : ∀ c ∈ p, c ≠ '%' ∧ c ≠ '_') (text : List Char) :
    (fit p text).answer = decide (text = p) := by
  induction p generalizing text with
  | nil => cases text <;> simp [fit, Fit.answer]
  | cons d p ih =>
    rw [List.forall_mem_cons] at h
    cases text with
    | nil => simp [fit, Fit.answer, h.1.1]
    | cons c text =>
      by_cases hc : d = c
      · subst hc
        rw [fit, if_pos (Or.inr rfl), Fit.answer_weaken, ih h.2]
        simp
      · rw [fit, if_neg (not_or.2 ⟨h.1.2, hc⟩), if_neg h.1.1]
        simp [Fit.answer, Ne.symm hc]

/-- A pattern without a wildcard matches itself only. -/
theorem isMatch_literal {pattern : String} (h : ∀ c ∈ pattern.toList, c ≠ '%' ∧ c ≠ '_') (text : String) :
    isMatch text pattern = decide (text = pattern) := by
  rw [isMatch_eq, fit_literal h]
  simp [String.toList_inj]

end Like

namespace Numeral

/-- A numeral has no wildcard. -/
theorem int64Text_literal (n : Int64) : ∀ c ∈ (int64Text n).toList, c ≠ '%' ∧ c ≠ '_' := by
  intro c hc
  have hdigit := mem_int64Text hc
  constructor <;> rintro rfl <;> simp at hdigit

theorem int64Text_ne_null (n : Int64) : int64Text n ≠ "null" := by
  intro h
  have hdigit : 'n' = '-' ∨ 'n'.isDigit = true := mem_int64Text (by rw [h]; decide)
  exact absurd hdigit (by decide)

end Numeral

namespace Value

theorem eq_null {v : Value} (h : v.isNull = true) : v = null := by
  cases v with
  | null => rfl
  | _ => cases h

/-- Whether a value is a text or null. -/
def isTextCell : Value → Bool
  | null | text _ => true
  | _ => false

/-- Whether a value is a text, an integer or null. -/
def isTextOperand : Value → Bool
  | null | int _ | text _ => true
  | _ => false

end Value

/-- A value of a kind, or a list of such values where one of several is asked for. -/
def OperandOf (p : Value → Bool) (op : Operator) (operand : Value) : Prop :=
  p operand = true ∨ op = .isIn ∧ ∃ items, operand = .list items ∧ ∀ v ∈ items, p v = true

/-- The cells and operands of a column of whole numbers or of texts. -/
def Comparable (k : Kind) (op : Operator) (cell operand : Value) : Prop :=
  k.isInteger = true ∧ cell.isKeyCell = true ∧ OperandOf Value.isKeyCell op operand ∨
  k.cast = "text" ∧ cell.isTextCell = true ∧ OperandOf Value.isTextOperand op operand

/-- A cell of a column and a value it is compared with. -/
def ComparableItem (k : Kind) (cell v : Value) : Prop :=
  k.isInteger = true ∧ cell.isKeyCell = true ∧ v.isKeyCell = true ∨
  k.cast = "text" ∧ cell.isTextCell = true ∧ v.isTextOperand = true

theorem Comparable.item {k : Kind} {op : Operator} {cell operand : Value} (h : Comparable k op cell operand)
    (hop : op ≠ .isIn) : ComparableItem k cell operand := by
  obtain ⟨hk, hcell, hoperand | ⟨hin, -⟩⟩ | ⟨hk, hcell, hoperand | ⟨hin, -⟩⟩ := h
  · exact Or.inl ⟨hk, hcell, hoperand⟩
  · exact absurd hin hop
  · exact Or.inr ⟨hk, hcell, hoperand⟩
  · exact absurd hin hop

theorem Comparable.items {k : Kind} {op : Operator} {cell operand : Value} (h : Comparable k op cell operand) :
    ∀ v ∈ Sql.operands operand, ComparableItem k cell v := by
  have hscalar : ∀ {p : Value → Bool}, (∀ items, p (.list items) = false) → OperandOf p op operand →
      ∀ v ∈ Sql.operands operand, p v = true := by
    rintro p hp (hv | ⟨-, items, rfl, hitems⟩)
    · cases operand with
      | list items => exact absurd hv (by simp [hp])
      | _ => simpa [Sql.operands] using hv
    · exact hitems
  obtain ⟨hk, hcell, hoperand⟩ | ⟨hk, hcell, hoperand⟩ := h
  · exact fun v hv => Or.inl ⟨hk, hcell, hscalar (fun _ => rfl) hoperand v hv⟩
  · exact fun v hv => Or.inr ⟨hk, hcell, hscalar (fun _ => rfl) hoperand v hv⟩

/-- The type a parameter for a column of a kind is cast to, as it is written. -/
def Kind.castWord (k : Kind) : String :=
  "::" ++ k.cast

/-- Whether a number is out of the range of a column's type. -/
def Kind.Refuses (k : Kind) (v : Value) : Prop :=
  k.isInteger = true ∧ ∃ n, v = .int n ∧ ¬ Sql.fits k.castWord n

/-- Whether an operator asks for the order of its sides. -/
def Operator.isOrdering : Operator → Bool
  | eq | ne | gt | ge | lt | le => true
  | like | isIn | isNull | notNull => false

/-- Where memory and SQL do not agree. -/
inductive Strays (k : Kind) : Operator → Value → Value → Prop where
  /-- In memory every cell is above null. -/
  | aboveNull {op : Operator} {cell : Value} (hop : op = .gt ∨ op = .ge) (hcell : cell.isNull = false) :
      Strays k op cell .null
  /-- In memory a number is no pattern. -/
  | likeNumber (n : Int64) : Strays k .like (.int n) (.int n)
  /-- In SQL the pattern for null is its name. -/
  | likeNull : Strays k .like (.text "null") .null
  /-- In memory a number is compared with one that no cell of the column could hold. -/
  | refused {op : Operator} {cell operand : Value} (hop : op.isOrdering = true) (hoperand : k.Refuses operand)
      (hcell : cell.isNull = false) (h : op.compares cell operand = true) : Strays k op cell operand
  /-- In memory a cell that the column could not hold is found in a list. -/
  | amongRefused {cell operand : Value} (hcell : k.Refuses cell) (h : cell ∈ Sql.operands operand) :
      Strays k .isIn cell operand

namespace Sql

theorem order_value {a b : Datum} {o : Ordering} (h : a.order? b = some o) : a.value.order b.value = some o := by
  cases a with
  | whole m =>
    cases b with
    | whole n => exact h
    | text u => cases h
  | text s =>
    cases b with
    | whole n => cases h
    | text u => exact h

theorem looseEq_value {a b : Datum} {o : Ordering} (h : a.order? b = some o) :
    a.value.looseEq b.value = (o == .eq) := by
  cases a with
  | whole m =>
    cases b with
    | whole n =>
      have horder := order_value h
      simp only [Datum.value] at horder ⊢
      rw [Value.looseEq, if_pos ⟨rfl, rfl⟩, horder]
      cases o <;> rfl
    | text u => cases h
  | text s =>
    cases b with
    | whole n => cases h
    | text u =>
      have hcompare : compare s u = o := Option.some.inj h
      have hsame : (Value.text s).looseEq (.text u) = decide (s = u) := by
        simp [Value.looseEq, Value.rank, Value.same]
      rw [Datum.value, Datum.value, hsame, ← hcompare, Bool.eq_iff_iff]
      simp

/-- The operators say the same of two data in memory and in SQL. -/
theorem decides?_sql {a b : Datum} {o : Ordering} (h : a.order? b = some o) {op : Operator}
    (hop : op.isOrdering = true) : decides? op.sql o = some (op.compares a.value b.value) := by
  have horder := order_value h
  have heq := looseEq_value h
  cases op with
  | eq => simp [Operator.compares, Operator.sql, decides?, heq]
  | ne => simp only [Operator.compares, Operator.sql, decides?, heq]; cases o <;> rfl
  | gt => simp only [Operator.compares, Operator.sql, decides?, horder]; cases o <;> rfl
  | ge => simp only [Operator.compares, Operator.sql, decides?, horder]; cases o <;> rfl
  | lt => simp only [Operator.compares, Operator.sql, decides?, horder]; cases o <;> rfl
  | le => simp only [Operator.compares, Operator.sql, decides?, horder]; cases o <;> rfl
  | like => cases hop
  | isIn => cases hop
  | isNull => cases hop
  | notNull => cases hop

theorem castWord_of_isInteger {k : Kind} (h : k.isInteger = true) : k.castWord ≠ "::text" := by
  cases k <;> simp [Kind.isInteger, Kind.castWord, Kind.cast] at h ⊢

theorem not_refuses_of_text {k : Kind} (h : k.cast = "text") (v : Value) : ¬ k.Refuses v := by
  rintro ⟨hk, -⟩
  refine castWord_of_isInteger hk ?_
  rw [Kind.castWord, h]
  rfl

/-- A cell and a value that are not null are data of one kind, and SQL casts the value to what memory compares, or
refuses it. -/
theorem exists_data {k : Kind} {cell v : Value} (h : ComparableItem k cell v) (hcell : cell.isNull = false)
    (hv : v.isNull = false) : ∃ a b o, cell = Datum.value a ∧ Value.operandFor cell v = Datum.value b ∧
      a.order? b = some o ∧ (k.Refuses v → castTo? k.castWord v = none) ∧
      (¬ k.Refuses v → castTo? k.castWord v = some b) := by
  obtain ⟨hk, hc, hw⟩ | ⟨hk, hc, hw⟩ := h
  · obtain rfl | ⟨m, rfl⟩ := Value.isKeyCell_cases hc
    · cases hcell
    obtain rfl | ⟨n, rfl⟩ := Value.isKeyCell_cases hw
    · cases hv
    refine ⟨.whole m, .whole n, _, rfl, rfl, rfl, ?_, fun hrefuses => ?_⟩
    · rintro ⟨-, i, hi, hfits⟩
      cases hi
      rw [castTo?, if_neg (castWord_of_isInteger hk), if_neg hfits]
    · have hfits : fits k.castWord n := by
        by_contra hnot
        exact hrefuses ⟨hk, n, rfl, hnot⟩
      rw [castTo?, if_neg (castWord_of_isInteger hk), if_pos hfits]
  · have hword : k.castWord = "::text" := by rw [Kind.castWord, hk]; rfl
    -- a number among texts is compared as its text, in memory and by the cast
    have hrefuses := not_refuses_of_text hk v
    rw [hword]
    cases cell with
    | text s =>
      cases v with
      | int n => exact ⟨.text s, .text (Numeral.int64Text n), _, rfl, rfl, rfl, fun h => absurd h hrefuses, fun _ => rfl⟩
      | text u => exact ⟨.text s, .text u, _, rfl, rfl, rfl, fun h => absurd h hrefuses, fun _ => rfl⟩
      | null => cases hv
      | _ => cases hw
    | null => cases hcell
    | _ => cases hc

theorem ofCell?_value (a : Datum) : Datum.ofCell? a.value = some a := by
  cases a <;> rfl

/-- SQL compares as memory does when its cast takes the operand. -/
theorem compared?_eq {k : Kind} {op : Operator} {cell v : Value} (hop : op.isOrdering = true)
    (h : ComparableItem k cell v) (hcell : cell.isNull = false) (hv : v.isNull = false) (hrefuses : ¬ k.Refuses v) :
    compared? k.castWord op.sql cell v = some (op.compares cell (Value.operandFor cell v)) := by
  obtain ⟨a, b, o, rfl, hoperand, horder, -, hcast⟩ := exists_data h hcell hv
  rw [compared?, ofCell?_value, hcast hrefuses, hoperand, ← decides?_sql horder hop]
  simp [horder]

theorem compared?_of_refuses {k : Kind} {cell v : Value} (op : String) (h : k.Refuses v) :
    compared? k.castWord op cell v = none := by
  obtain ⟨hk, n, rfl, hfits⟩ := h
  rw [compared?, castTo?, if_neg (castWord_of_isInteger hk), if_neg hfits]
  cases Datum.ofCell? cell <;> rfl

/-- Nothing is known of a comparison with null on either side. -/
theorem compared?_of_isNull {type op : String} {cell v : Value} (h : cell.isNull = true ∨ v.isNull = true) :
    compared? type op cell v = none := by
  obtain h | h := h
  · rw [Value.eq_null h]
    rfl
  · rw [Value.eq_null h, compared?]
    cases Datum.ofCell? cell <;> rfl

theorem not_refuses_null (k : Kind) : ¬ k.Refuses .null := by
  rintro ⟨-, n, hn, -⟩
  cases hn

theorem strays_ordering_iff {k : Kind} {op : Operator} {cell v : Value} (hop : op.isOrdering = true)
    (hv : v.isNull = false) :
    Strays k op cell v ↔ k.Refuses v ∧ cell.isNull = false ∧ op.compares cell v = true := by
  constructor
  · intro h
    cases h with
    | aboveNull _ _ => cases hv
    | likeNumber n => cases hop
    | likeNull => cases hop
    | refused _ hoperand hcell hcompares => exact ⟨hoperand, hcell, hcompares⟩
    | amongRefused _ _ => cases hop
  · rintro ⟨hoperand, hcell, hcompares⟩
    exact .refused hop hoperand hcell hcompares

/-- Of an ordering operator and an operand that is not null, SQL says what memory says, except where it refuses the
operand. -/
theorem ordering_agrees_iff {k : Kind} {op : Operator} {cell v : Value} (hop : op.isOrdering = true)
    (h : ComparableItem k cell v) (hv : v.isNull = false) :
    ((!cell.isNull && op.compares cell (Value.operandFor cell v)) = true ↔
      compared? k.castWord op.sql cell v = some true) ↔ ¬ Strays k op cell v := by
  rw [strays_ordering_iff hop hv]
  cases hcell : cell.isNull with
  | true =>
    rw [compared?_of_isNull (Or.inl hcell)]
    simp
  | false =>
    by_cases hrefuses : k.Refuses v
    · have hoperand : Value.operandFor cell v = v := by
        obtain ⟨hk, n, rfl, -⟩ := hrefuses
        obtain ⟨-, hc, -⟩ | ⟨htext, -, -⟩ := h
        · obtain rfl | ⟨m, rfl⟩ := Value.isKeyCell_cases hc <;> rfl
        · exact absurd (by rw [Kind.castWord, htext]; rfl) (castWord_of_isInteger hk)
      rw [compared?_of_refuses op.sql hrefuses, hoperand]
      simp [hrefuses]
    · rw [compared?_eq hop h hcell hv hrefuses]
      simp [hrefuses]

theorem looseEq_null {k : Kind} {cell v : Value} (h : ComparableItem k cell v) (hcell : cell.isNull = false) :
    cell.looseEq .null = false := by
  cases cell with
  | null => cases hcell
  | int n => rfl
  | text s => rfl
  | _ => exact absurd h (by simp [ComparableItem, Value.isKeyCell, Value.isTextCell])

theorem compared?_eq_true_iff {k : Kind} {cell v : Value} (h : ComparableItem k cell v) :
    compared? k.castWord "=" cell v = some true ↔
      cell.isNull = false ∧ cell.looseEq (Value.operandFor cell v) = true ∧ ¬ k.Refuses v := by
  cases hcell : cell.isNull with
  | true =>
    rw [compared?_of_isNull (Or.inl hcell)]
    simp
  | false =>
    cases hv : v.isNull with
    | true =>
      have hnull : cell.looseEq (Value.operandFor cell v) = false := by
        rw [Value.eq_null hv]
        refine Eq.trans ?_ (looseEq_null h hcell)
        cases cell <;> rfl
      rw [compared?_of_isNull (Or.inr hv), hnull]
      simp
    | false =>
      by_cases hrefuses : k.Refuses v
      · rw [compared?_of_refuses "=" hrefuses]
        simp [hrefuses]
      · have hordering : Operator.eq.isOrdering = true := rfl
        have hcompares : compared? k.castWord "=" cell v = some (cell.looseEq (Value.operandFor cell v)) :=
          compared?_eq hordering h hcell hv hrefuses
        rw [hcompares]
        simp [hrefuses]

/-- A number is equal to itself only. -/
theorem eq_of_looseEq {k : Kind} {cell v : Value} (h : ComparableItem k cell v) (hk : k.isInteger = true)
    (heq : cell.looseEq (Value.operandFor cell v) = true) (hcell : cell.isNull = false) : v = cell := by
  obtain ⟨-, hc, hw⟩ | ⟨htext, -⟩ := h
  · obtain rfl | ⟨m, rfl⟩ := Value.isKeyCell_cases hc
    · cases hcell
    obtain rfl | ⟨n, rfl⟩ := Value.isKeyCell_cases hw
    · cases heq
    have hmn : m = n := by simpa [Value.operandFor, Value.looseEq_int] using heq
    rw [hmn]
  · exact absurd (by rw [Kind.castWord, htext]; rfl) (castWord_of_isInteger hk)

theorem asTexts_eq_map (vs : List Value) : Value.asTexts vs = vs.map Value.asText := by
  induction vs with
  | nil => rfl
  | cons v vs ih => rw [Value.asTexts, ih, List.map_cons]

theorem asText_of_not_scalar {v : Value} (h : v.isTextOperand = true) (hv : v.isScalar = false) :
    v.asText = v := by
  cases v with
  | null => rfl
  | text s => rfl
  | int n => cases hv
  | _ => cases h

/-- A cell is compared with each item of a list as with the item alone. -/
theorem isAmong_eq {k : Kind} {cell operand : Value} (h : Comparable k .isIn cell operand) (hcell : cell.isNull = false) :
    cell.isAmong (Value.operandFor cell operand) =
      (operands operand).any fun v => cell.looseEq (Value.operandFor cell v) := by
  have hitems := h.items
  cases cell with
  | null => cases hcell
  | text s =>
    cases operand with
    | list items =>
      simp only [Value.operandFor, Value.asText]
      split
      · rw [Value.isAmong, asTexts_eq_map, List.any_map]
        rfl
      · -- without a number in it the list is left as it is, and so is each of its items
        rename_i hscalars
        have hsame : items.map Value.asText = items := by
          refine (List.map_congr_left fun v hv => ?_).trans (List.map_id items)
          obtain ⟨-, hc, -⟩ | ⟨-, -, hv'⟩ := hitems v hv
          · cases hc
          · refine asText_of_not_scalar hv' ?_
            rw [List.any_eq_true, not_exists] at hscalars
            simpa [hv] using hscalars v
        have hany : (items.map Value.asText).any (Value.text s).looseEq = items.any (Value.text s).looseEq := by
          rw [hsame]
        rw [List.any_map] at hany
        exact hany.symm
    | _ => simp [Value.operandFor, Value.asText, Value.isAmong, operands]
  | _ =>
    cases operand <;> simp [Value.operandFor, Value.isAmong, operands]

theorem strays_isIn_iff {k : Kind} {cell operand : Value} :
    Strays k .isIn cell operand ↔ k.Refuses cell ∧ cell ∈ operands operand := by
  constructor
  · intro h
    cases h with
    | aboveNull hop _ => exact absurd hop (by decide)
    | refused hop _ _ _ => cases hop
    | amongRefused hcell hmem => exact ⟨hcell, hmem⟩
  · rintro ⟨hcell, hmem⟩
    exact .amongRefused hcell hmem

theorem strays_like_iff {k : Kind} {cell operand : Value} :
    Strays k .like cell operand ↔ (∃ n, cell = .int n ∧ operand = .int n) ∨ cell = .text "null" ∧ operand = .null := by
  constructor
  · intro h
    cases h with
    | aboveNull hop _ => exact absurd hop (by decide)
    | likeNumber n => exact Or.inl ⟨n, rfl, rfl⟩
    | likeNull => exact Or.inr ⟨rfl, rfl⟩
    | refused hop _ _ _ => cases hop
  · rintro (⟨n, rfl, rfl⟩ | ⟨rfl, rfl⟩)
    · exact .likeNumber n
    · exact .likeNull

theorem not_strays_nullCheck {k : Kind} {op : Operator} {cell operand : Value}
    (hop : op = .isNull ∨ op = .notNull ∨ (op = .eq ∨ op = .ne) ∧ operand = .null) : ¬ Strays k op cell operand := by
  intro h
  cases h with
  | aboveNull hop' _ => rcases hop' with rfl | rfl <;> exact absurd hop (by simp)
  | likeNumber n => exact absurd hop (by simp)
  | likeNull => exact absurd hop (by simp)
  | refused hop' hoperand _ _ =>
    obtain rfl | rfl | ⟨-, rfl⟩ := hop
    · cases hop'
    · cases hop'
    · exact not_refuses_null k hoperand
  | amongRefused _ _ => exact absurd hop (by simp)

/-- Where one of several is asked for, SQL finds those that memory finds, unless it refuses the cell itself. -/
theorem among_agrees_iff {k : Kind} {cell operand : Value} (h : Comparable k .isIn cell operand) :
    ((!cell.isNull && cell.isAmong (Value.operandFor cell operand)) = true ↔
      ∃ v ∈ operands operand, compared? k.castWord "=" cell v = some true) ↔ ¬ Strays k .isIn cell operand := by
  have hitems := h.items
  rw [strays_isIn_iff]
  cases hcell : cell.isNull with
  | true =>
    have hcast : ¬ k.Refuses cell := by rw [Value.eq_null hcell]; exact not_refuses_null k
    have hnone : ∀ v, compared? k.castWord "=" cell v ≠ some true := by
      intro v
      rw [compared?_of_isNull (Or.inl hcell)]
      exact nofun
    simp [hcast, hnone]
  | false =>
    rw [isAmong_eq h hcell, Bool.not_false, Bool.true_and, List.any_eq_true]
    constructor
    · -- the cell is found in memory, and what SQL finds equal to it is the cell again, which is refused
      rintro hagrees ⟨hrefuses, hmem⟩
      have hself : cell.looseEq (Value.operandFor cell cell) = true := by
        obtain ⟨-, n, rfl, -⟩ := hrefuses
        exact (Value.looseEq_int n n).trans (decide_eq_true rfl)
      obtain ⟨v, hv, htrue⟩ := hagrees.1 ⟨cell, hmem, hself⟩
      obtain ⟨-, heq, hnot⟩ := (compared?_eq_true_iff (hitems v hv)).1 htrue
      rw [eq_of_looseEq (hitems v hv) hrefuses.1 heq hcell] at hnot
      exact hnot hrefuses
    · intro hnot
      constructor
      · rintro ⟨v, hv, heq⟩
        refine ⟨v, hv, (compared?_eq_true_iff (hitems v hv)).2 ⟨hcell, heq, fun hrefuses => hnot ?_⟩⟩
        have hself := eq_of_looseEq (hitems v hv) hrefuses.1 heq hcell
        rw [hself] at hv hrefuses
        exact ⟨hrefuses, hv⟩
      · rintro ⟨v, hv, htrue⟩
        exact ⟨v, hv, ((compared?_eq_true_iff (hitems v hv)).1 htrue).2.1⟩

/-- What SQL makes of LIKE: the text of the cell against the text of the operand. -/
def likeTruth? (cell operand : Value) : Option Bool :=
  (Datum.ofCell? cell).map fun a => Like.isMatch a.toText operand.display

/-- LIKE finds the same in both, unless the cell is the number that is asked for, or the operand is null and the cell
its name. -/
theorem like_agrees_iff {k : Kind} {cell operand : Value} (h : ComparableItem k cell operand) :
    ((!cell.isNull && cell.isLike (Value.operandFor cell operand)) = true ↔ likeTruth? cell operand = some true) ↔
      ¬ Strays k .like cell operand := by
  have hname : ∀ c ∈ "null".toList, c ≠ '%' ∧ c ≠ '_' := by simp
  rw [strays_like_iff]
  obtain ⟨-, hc, hw⟩ | ⟨-, hc, hw⟩ := h
  · obtain rfl | ⟨m, rfl⟩ := Value.isKeyCell_cases hc
    · simp [likeTruth?, Datum.ofCell?, Value.isNull]
    · obtain rfl | ⟨n, rfl⟩ := Value.isKeyCell_cases hw
      · have hmatch : Like.isMatch (Numeral.int64Text m) "null" = false := by
          rw [Like.isMatch_literal hname, decide_eq_false_iff_not]
          exact Numeral.int64Text_ne_null m
        simp [likeTruth?, Datum.ofCell?, Datum.toText, Value.display, Value.operandFor, Value.isLike, hmatch]
      · have hmatch : Like.isMatch (Numeral.int64Text m) (Numeral.int64Text n) = decide (m = n) := by
          rw [Like.isMatch_literal (Numeral.int64Text_literal n), decide_eq_decide]
          exact ⟨Numeral.int64Text_injective, congrArg _⟩
        simp [likeTruth?, Datum.ofCell?, Datum.toText, Value.display, Value.operandFor, Value.isLike, hmatch,
          eq_comm]
  · cases cell with
    | null => simp [likeTruth?, Datum.ofCell?, Value.isNull]
    | text s =>
      have hmatch := Like.isMatch_literal hname s
      cases operand with
      | null =>
        simp [likeTruth?, Datum.ofCell?, Datum.toText, Value.display, Value.operandFor, Value.asText, Value.isLike,
          hmatch]
      | int n =>
        simp [likeTruth?, Datum.ofCell?, Datum.toText, Value.display, Value.operandFor, Value.asText, Value.isLike,
          Value.isNull]
      | text u =>
        simp [likeTruth?, Datum.ofCell?, Datum.toText, Value.display, Value.operandFor, Value.asText, Value.isLike,
          Value.isNull]
      | _ => cases hw
    | _ => cases hc

theorem order_null {k : Kind} {cell : Value} (h : ComparableItem k cell .null) (hcell : cell.isNull = false) :
    cell.order (Value.operandFor cell .null) = some .gt := by
  cases cell with
  | null => cases hcell
  | int n => rfl
  | text s => rfl
  | _ => exact absurd h (by simp [ComparableItem, Value.isKeyCell, Value.isTextCell])

/-- In memory a cell is above null, in SQL nothing is known of it. -/
theorem above_null_agrees_iff {k : Kind} {op : Operator} {cell : Value}
    (hop : op = .gt ∨ op = .ge ∨ op = .lt ∨ op = .le) (h : ComparableItem k cell .null) :
    ((!cell.isNull && op.compares cell (Value.operandFor cell .null)) = true ↔
      compared? k.castWord op.sql cell .null = some true) ↔ ¬ Strays k op cell .null := by
  have hstrays : Strays k op cell .null ↔ (op = .gt ∨ op = .ge) ∧ cell.isNull = false := by
    constructor
    · intro h
      cases h with
      | aboveNull hop hcell => exact ⟨hop, hcell⟩
      | likeNull => exact absurd hop (by decide)
      | refused _ hoperand _ _ => exact absurd hoperand (not_refuses_null k)
      | amongRefused _ _ => exact absurd hop (by decide)
    · rintro ⟨hop, hcell⟩
      exact .aboveNull hop hcell
  rw [hstrays, compared?_of_isNull (Or.inr rfl)]
  cases hcell : cell.isNull with
  | true => simp
  | false =>
    have horder := order_null h hcell
    rcases hop with rfl | rfl | rfl | rfl <;> simp [Operator.compares, horder]

theorem castTokens_of_comparable {k : Kind} {op : Operator} {cell operand : Value}
    (h : Comparable k op cell operand) : castTokens (some k) = [.word k.castWord] := by
  have hkind : k.isInteger = true ∨ k.cast = "text" := h.imp And.left And.left
  cases k <;> simp [Kind.isInteger, Kind.cast] at hkind <;> simp only [castTokens, Kind.castWord, Kind.cast] <;> rfl

/-- An operator that asks for the order of its sides is true of no null cell, unless it is written as a null check. -/
theorem holds_eq {op : Operator} {cell operand : Value} (hop : op.isOrdering = true)
    (hnull : op = .eq ∨ op = .ne → operand.isNull = false) :
    op.holds cell operand = (!cell.isNull && op.compares cell (Value.operandFor cell operand)) := by
  cases op with
  | eq => simp [Operator.holds, hnull (Or.inl rfl)]
  | ne => simp [Operator.holds, hnull (Or.inr rfl)]
  | gt => simp [Operator.holds]
  | ge => simp [Operator.holds]
  | lt => simp [Operator.holds]
  | le => simp [Operator.holds]
  | like => cases hop
  | isIn => cases hop
  | isNull => cases hop
  | notNull => cases hop

theorem truth?_eq {op : Operator} {operand : Value} (t : TableSchema) (type column : String) (n : Nat) (row : Record)
    (hop : op.isOrdering = true) (hnull : op = .eq ∨ op = .ne → operand.isNull = false) :
    (predicateOf type n column op operand).truth? row (paramAt n (comparison t column op operand).params) =
      compared? type op.sql (row.cell column) operand := by
  have hparam : (paramAt n [operand] n).bind (compared? type op.sql (row.cell column)) =
      compared? type op.sql (row.cell column) operand := by
    rw [paramAt_self, Option.bind_some]
  rw [← hparam]
  cases op with
  | eq => simp [predicateOf, comparison, Predicate.truth?, Statement.params, param, Operator.sql, hnull (Or.inl rfl)]
  | ne => simp [predicateOf, comparison, Predicate.truth?, Statement.params, param, Operator.sql, hnull (Or.inr rfl)]
  | gt => rfl
  | ge => rfl
  | lt => rfl
  | le => rfl
  | like => cases hop
  | isIn => cases hop
  | isNull => cases hop
  | notNull => cases hop

theorem truth?_like (t : TableSchema) (type column : String) (n : Nat) (row : Record) (operand : Value) :
    (predicateOf type n column .like operand).truth? row (paramAt n (comparison t column .like operand).params) =
      likeTruth? (row.cell column) operand := by
  simp only [predicateOf, comparison, Predicate.truth?, Statement.params, paramAt_self, likeTruth?]
  cases Datum.ofCell? (row.cell column) <;> rfl

theorem anyOf_eq_true_iff (truths : List (Option Bool)) : anyOf truths = some true ↔ some true ∈ truths := by
  rw [anyOf]
  split
  · simp [*]
  · split <;> simp [*]

theorem truth?_isIn (t : TableSchema) (type column : String) (n : Nat) (row : Record) (operand : Value) :
    (predicateOf type n column .isIn operand).truth? row (paramAt n (comparison t column .isIn operand).params) =
        some true ↔
      ∃ v ∈ operands operand, compared? type "=" (row.cell column) v = some true := by
  cases hitems : operands operand with
  | nil => simp [predicateOf, hitems, Predicate.truth?]
  | cons v vs =>
    have hparams : (comparison t column .isIn operand).params = v :: vs := by
      have hjoined := params_joined t column (v :: vs)
      rw [List.map_cons] at hjoined
      simp [comparison, hitems, params_append, Statement.params, hjoined]
    have hmap := map_numbered type n (v :: vs) fun type => compared? type "=" (row.cell column)
    rw [hparams]
    simp only [predicateOf, hitems, Predicate.truth?]
    rw [hmap, anyOf_eq_true_iff, List.mem_map]

section Written

variable {k : Kind} {column : String} {op : Operator} {row : Record} {operand : Value}

/-- What is written as a null check is decided as one. -/
theorem written_nullCheck_agrees_iff (t : TableSchema) (n : Nat)
    (hop : op = .isNull ∨ op = .notNull ∨ (op = .eq ∨ op = .ne) ∧ operand = .null) :
    (op.holds (row.cell column) operand = true ↔ (predicateOf k.castWord n column op operand).truth? row
        (paramAt n (comparison t column op operand).params) = some true) ↔
      ¬ Strays k op (row.cell column) operand := by
  have hstrays : ¬ Strays k op (row.cell column) operand := not_strays_nullCheck hop
  obtain rfl | rfl | ⟨rfl | rfl, rfl⟩ := hop <;>
    simp [Operator.holds, predicateOf, Predicate.truth?, Value.isNull, hstrays]

/-- What is written with the sign of an order agrees with memory, except for null operands and those that are
refused. -/
theorem written_order_agrees_iff (t : TableSchema) (n : Nat) (hop : op.isOrdering = true)
    (hnull : op = .eq ∨ op = .ne → operand.isNull = false) (h : ComparableItem k (row.cell column) operand) :
    (op.holds (row.cell column) operand = true ↔ (predicateOf k.castWord n column op operand).truth? row
        (paramAt n (comparison t column op operand).params) = some true) ↔
      ¬ Strays k op (row.cell column) operand := by
  rw [holds_eq hop hnull, truth?_eq t k.castWord column n row hop hnull]
  cases hv : operand.isNull with
  | false => exact ordering_agrees_iff hop h hv
  | true =>
    have hinequality : op = .gt ∨ op = .ge ∨ op = .lt ∨ op = .le := by
      cases op <;> simp [Operator.isOrdering, hv] at hop hnull ⊢
    rw [Value.eq_null hv] at h ⊢
    exact above_null_agrees_iff hinequality h

end Written

/-- Memory and SQL agree on a comparison exactly when they do not stray. -/
theorem comparison_agrees_iff {t : TableSchema} {k : Kind} {column : String} {op : Operator} {row : Record}
    {operand : Value} (n : Nat) (hk : t.kind? column = some k) (h : Comparable k op (row.cell column) operand) :
    (op.holds (row.cell column) operand = true ↔ writtenTruth? t n row column op operand = some true) ↔
      ¬ Strays k op (row.cell column) operand := by
  have hcast : castTokens (t.kind? column) = [.word k.castWord] := by
    rw [hk]
    exact castTokens_of_comparable h
  rw [writtenTruth?, predicate?_comparison hcast, Option.bind_some]
  cases op with
  | isNull => exact written_nullCheck_agrees_iff t n (Or.inl rfl)
  | notNull => exact written_nullCheck_agrees_iff t n (Or.inr (Or.inl rfl))
  | eq =>
    cases hv : operand.isNull with
    | true => exact written_nullCheck_agrees_iff t n (Or.inr (Or.inr ⟨Or.inl rfl, Value.eq_null hv⟩))
    | false => exact written_order_agrees_iff t n rfl (fun _ => hv) (h.item (by decide))
  | ne =>
    cases hv : operand.isNull with
    | true => exact written_nullCheck_agrees_iff t n (Or.inr (Or.inr ⟨Or.inr rfl, Value.eq_null hv⟩))
    | false => exact written_order_agrees_iff t n rfl (fun _ => hv) (h.item (by decide))
  | gt => exact written_order_agrees_iff t n rfl (fun hop => absurd hop (by decide)) (h.item (by decide))
  | ge => exact written_order_agrees_iff t n rfl (fun hop => absurd hop (by decide)) (h.item (by decide))
  | lt => exact written_order_agrees_iff t n rfl (fun hop => absurd hop (by decide)) (h.item (by decide))
  | le => exact written_order_agrees_iff t n rfl (fun hop => absurd hop (by decide)) (h.item (by decide))
  | like =>
    rw [truth?_like]
    simpa [Operator.holds, Operator.compares] using like_agrees_iff (h.item (by decide))
  | isIn =>
    rw [truth?_isIn]
    simpa [Operator.holds, Operator.compares] using among_agrees_iff h

end Sql

namespace Sample

/-- A table with a column for numbers and one for texts. -/
def numbersAndTexts : TableSchema :=
  { name := "t"
    primaryKey := none
    autoIncrement := false
    columns := ["n", "s"]
    kinds := [("n", .integer), ("s", .text)] }

/-- A row with the name of null as its text. -/
def fiveNull : Record :=
  [("n", .int 5), ("s", .text "null")]

/-- A text is found among items of all kinds. -/
theorem null_text_found_among_items :
    Operator.isIn.holds (fiveNull.cell "s") (.list [.null, .int 5, .text "null"]) = true ∧
      Sql.writtenTruth? numbersAndTexts 1 fiveNull "s" .isIn (.list [.null, .int 5, .text "null"]) = some true := by
  have hcomparable : Comparable .text .isIn (fiveNull.cell "s") (.list [.null, .int 5, .text "null"]) :=
    Or.inr ⟨rfl, rfl, Or.inr ⟨rfl, _, rfl, by decide⟩⟩
  have hstrays : ¬ Strays .text .isIn (fiveNull.cell "s") (.list [.null, .int 5, .text "null"]) := by
    rw [Sql.strays_isIn_iff]
    rintro ⟨⟨hk, -⟩, -⟩
    cases hk
  have hkind : numbersAndTexts.kind? "s" = some .text := rfl
  have hagrees := (Sql.comparison_agrees_iff 1 hkind hcomparable).2 hstrays
  have hholds : Operator.isIn.holds (fiveNull.cell "s") (.list [.null, .int 5, .text "null"]) = true := by decide
  exact ⟨hholds, hagrees.1 hholds⟩

/-- Memory and SQL do not agree on what is above null, on numbers as patterns, and on null as a pattern. -/
theorem null_and_number_operands_stray :
    (Comparable .integer .gt (fiveNull.cell "n") .null ∧ Operator.gt.holds (fiveNull.cell "n") .null = true ∧
      Sql.writtenTruth? numbersAndTexts 1 fiveNull "n" .gt .null = none) ∧
    (Comparable .integer .like (fiveNull.cell "n") (.int 5) ∧
      Operator.like.holds (fiveNull.cell "n") (.int 5) = false ∧
      Sql.writtenTruth? numbersAndTexts 1 fiveNull "n" .like (.int 5) = some true) ∧
    Comparable .text .like (fiveNull.cell "s") .null ∧ Operator.like.holds (fiveNull.cell "s") .null = false ∧
      Sql.writtenTruth? numbersAndTexts 1 fiveNull "s" .like .null = some true := by
  refine ⟨⟨Or.inl ⟨rfl, rfl, Or.inl rfl⟩, ?_⟩, ⟨Or.inl ⟨rfl, rfl, Or.inl rfl⟩, ?_⟩, Or.inr ⟨rfl, rfl, Or.inl rfl⟩, ?_⟩
  · decide
  · decide
  · decide

end Sample

end DataModel

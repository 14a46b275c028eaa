import DataModel.Proofs.Constraints
import DataModel.Proofs.Key
import DataModel.Proofs.Ranking
import DataModel.Proofs.ReadBack

/-!
# Where keys and equality agree on numbers

The key of a number tells what the number is, but that all numbers from the greatest integer on have its key,
and all numbers up to the least one have its key. Equality rounds an integer before it is compared with
another number. So there are two ways for the two to disagree: an integer is rounded to a number that it is
not, and two numbers differ that are both beyond the same end of the integers. `Value.Mixed` is one or the
other. Everywhere else the rows that are fetched for keys are those that have one of the keys, and a row is
refused as a duplicate exactly when a filter for its key finds another row.
-/

namespace DataModel

namespace Binary64

/-- What is a number of this format is not changed by rounding. -/
theorem rounded_units (x : Binary64) : rounded x.units = x.units := by
  refine rounded_eq (Nat.dvd_trans (twoTo_dvd ?_) (Nat.dvd_mul_left (twoTo x.scale) x.significand))
  have hsmall : x.units < twoTo (53 + x.scale) := by
    rw [twoTo_add]
    exact Nat.mul_lt_mul_of_pos_right x.significand_lt (twoTo_pos _)
  have hlog := log2_lt (by omega) hsmall
  unfold cut
  omega

theorem natAbs_signedUnits (x : Binary64) : x.signedUnits.natAbs = x.units := by
  unfold signedUnits
  split
  · rw [Int.natAbs_neg]
    rfl
  · rfl

theorem negative_iff {x : Binary64} (h : x.units ≠ 0) : x.negative = true ↔ x.signedUnits < 0 := by
  unfold signedUnits
  rw [Int.ofNat_eq_natCast]
  split
  next hnegative => exact iff_of_true hnegative (by omega)
  next hpositive => exact iff_of_false hpositive (by omega)

/-- Two words that are equal as numbers are the same, zeros apart. -/
theorem eq_of_signedUnits_eq {x y : Binary64} (h : x.signedUnits = y.signedUnits) (hx : x.units ≠ 0) : x = y := by
  have hunits : x.units = y.units := by rw [← natAbs_signedUnits, h, natAbs_signedUnits]
  refine eq_of_units_eq hunits (Bool.eq_iff_iff.2 ?_)
  rw [negative_iff hx, negative_iff (hunits ▸ hx), h]

/-- An integer that is a number of this format is rounded to this number. -/
theorem signedUnits_ofInt_of_eq {n : Int} (h : n.natAbs ≤ twoTo 63) {x : Binary64} (heq : n * one = x.signedUnits) :
    (ofInt n).signedUnits = x.signedUnits := by
  have hunits : n.natAbs * one = x.units := by
    rw [← natAbs_signedUnits, ← heq, Int.natAbs_mul, Int.natAbs_natCast]
  rw [signedUnits_ofInt h, hunits, rounded_units, ← hunits, ← heq, Int.natCast_mul]
  split
  next => rw [← Int.neg_mul]; exact congrArg (· * (one : Int)) (by omega)
  next => exact congrArg (· * (one : Int)) (by omega)

/-- A number with a fraction is far within the range of integers. -/
theorem units_lt_of_fraction {x : Binary64} (h : x.units % one ≠ 0) : x.units < twoTo 53 * one :=
  Nat.lt_of_lt_of_le (Nat.mul_lt_mul_of_pos_right x.significand_lt (twoTo_pos _))
    (Nat.mul_le_mul_left _ (twoTo_mono (exists_one_eq h).1.le))

/-- A number without its fraction, held within the range of integers. -/
theorem toInt_truncated {x : Binary64} (h : x.isNaN = false) :
    x.truncated.toInt = max (-9223372036854775808) (min 9223372036854775807
      (if x.negative then -((x.units / one : Nat) : Int) else (x.units / one : Nat))) := by
  have hbound : twoTo 63 = 9223372036854775808 := rfl
  rw [truncated, if_neg (by rw [h]; exact Bool.false_ne_true)]
  simp only [Int.ofNat_eq_natCast, hbound]
  generalize x.units / one = n
  split
  next => rw [Int64.toInt_ofInt_of_le (by omega) (by omega)]; omega
  next => rw [Int64.toInt_ofInt_of_le (by omega) (by omega)]; omega

theorem signedUnits_of_isWhole {x : Binary64} (h : x.units % one = 0) :
    x.signedUnits = (if x.negative then -((x.units / one : Nat) : Int) else (x.units / one : Nat)) * one := by
  have hunits : x.units / one * one = x.units := Nat.div_mul_cancel (Nat.dvd_of_mod_eq_zero h)
  unfold signedUnits
  split
  next => rw [Int.neg_mul, ← Int.natCast_mul, hunits]; rfl
  next => rw [← Int.natCast_mul, hunits]; rfl

end Binary64

namespace Value

/-- Whether a value is an integer. -/
def isInteger : Value → Bool
  | int _ => true
  | _ => false

/-- Whether a value is a finite number. -/
def isNumber : Value → Bool
  | int _ => true
  | float x => x.isFinite
  | _ => false

/-- Whether a value is a finite number or null. -/
def isNumberCell : Value → Bool
  | null => true
  | v => v.isNumber

/-- A number in steps, not rounded. -/
def steps : Value → Int
  | int n => n.toInt * Binary64.one
  | float x => x.signedUnits
  | _ => 0

/-- A number in steps, held between the least and the greatest integer. -/
def held (v : Value) : Int :=
  max (-9223372036854775808 * Binary64.one) (min (9223372036854775807 * Binary64.one) v.steps)

/-- Whether two numbers are both from the greatest integer on, or both up to the least one. -/
def AtSameEnd (a b : Value) : Prop :=
  (9223372036854775807 * Binary64.one ≤ a.steps ∧ 9223372036854775807 * Binary64.one ≤ b.steps) ∨
    (a.steps ≤ -9223372036854775808 * Binary64.one ∧ b.steps ≤ -9223372036854775808 * Binary64.one)

/-- Whether an integer is rounded to a number that it is not, short of the ends of the integers. -/
def RoundedTogether (a b : Value) : Prop :=
  a.level = b.level ∧ a.steps ≠ b.steps ∧ ¬(a.isInteger = true ∧ b.isInteger = true) ∧ ¬AtSameEnd a b

/-- Whether two numbers differ, also after rounding, that are both at or beyond the same end of the integers. -/
def HeldTogether (a b : Value) : Prop :=
  a.level ≠ b.level ∧ AtSameEnd a b

/-- Whether two numbers are mixed up: by equality, or by their keys. -/
def Mixed (a b : Value) : Prop :=
  RoundedTogether a b ∨ HeldTogether a b

variable {a b v : Value}

theorem number_forms (h : v.isNumber = true) : (∃ n, v = int n) ∨ ∃ x, v = float x ∧ x.isFinite = true := by
  cases v with
  | int n => exact Or.inl ⟨n, rfl⟩
  | float x => exact Or.inr ⟨x, rfl, h⟩
  | _ => cases h

theorem isNumberCell_cases (h : v.isNumberCell = true) : v = null ∨ v.isNumber = true := by
  cases v with
  | null => exact Or.inl rfl
  | int n => exact Or.inr rfl
  | float x => exact Or.inr h
  | _ => cases h

theorem one_pos : (0 : Int) < Binary64.one :=
  Int.natCast_pos.2 (twoTo_pos 1074)

/-! ## What keys tell apart -/

theorem held_of_steps {n : Int} (h : v.steps = n * Binary64.one) :
    v.held = max (-9223372036854775808) (min 9223372036854775807 n) * Binary64.one := by
  rw [held, h, max_mul_of_nonneg _ _ one_pos.le, min_mul_of_nonneg _ _ one_pos.le]

/-- A number without a fraction has the text of the integer that it is held to be. -/
theorem key_of_int? {n : Int64} (hv : v.isNumber = true) (h : v.int? = some n) :
    v.key = some (Numeral.int64Text n) ∧ v.held = n.toInt * Binary64.one := by
  rcases number_forms hv with ⟨m, rfl⟩ | ⟨x, rfl, hx⟩
  · obtain rfl : m = n := Option.some.inj h
    have hlow := m.le_toInt
    have hhigh := m.toInt_lt
    refine ⟨rfl, ?_⟩
    rw [held_of_steps (v := int m) (n := m.toInt) rfl]
    exact congrArg (· * (Binary64.one : Int)) (by omega)
  · rw [int?] at h
    split at h
    next hwhole =>
      obtain rfl := Option.some.inj h
      refine ⟨by rw [key, if_pos hwhole], ?_⟩
      have hunits : x.units % Binary64.one = 0 := of_decide_eq_true (Bool.and_eq_true_iff.1 hwhole).2
      rw [held_of_steps (v := float x) (Binary64.signedUnits_of_isWhole hunits),
        ← Binary64.toInt_truncated (Binary64.isNaN_of_isFinite hx)]
    next => cases h

/-- A number with a fraction is not held back. -/
theorem exists_float_of_int?_eq_none (hv : v.isNumber = true) (h : v.int? = none) : ∃ x, v = float x ∧
    x.isFinite = true ∧ x.units % Binary64.one ≠ 0 ∧ v.key = some x.plainText ∧ v.held = x.signedUnits := by
  rcases number_forms hv with ⟨m, rfl⟩ | ⟨x, rfl, hx⟩
  · cases h
  · rw [int?] at h
    split at h
    next => cases h
    next hfraction =>
      have hunits : x.units % Binary64.one ≠ 0 := fun hwhole => hfraction (by
        rw [Binary64.isIntegral, hx, Bool.true_and]
        exact decide_eq_true hwhole)
      refine ⟨x, rfl, hx, hunits, by rw [key, if_neg hfraction], ?_⟩
      have hsmall := Binary64.units_lt_of_fraction hunits
      rw [show twoTo 53 = 9007199254740992 from rfl, ← Binary64.natAbs_signedUnits] at hsmall
      rw [held, steps]
      omega

/-- An integer is held to be no number with a fraction. -/
theorem key_ne_of_fraction (ha : a.isNumber = true) (hb : b.isNumber = true) {n : Int64} (hwhole : a.int? = some n)
    (hfraction : b.int? = none) : a.key ≠ b.key ∧ a.held ≠ b.held := by
  obtain ⟨hkey, hheld⟩ := key_of_int? ha hwhole
  obtain ⟨x, rfl, hx, hunits, hkey', hheld'⟩ := exists_float_of_int?_eq_none hb hfraction
  rw [hkey, hheld, hkey', hheld']
  constructor
  · intro h
    have hnone : x.isIntegral = false := by
      rw [Binary64.isIntegral, hx, Bool.true_and]
      exact decide_eq_false hunits
    exact Binary64.plainText_ne_int64Text hnone n (Option.some.inj h).symm
  · intro h
    refine hunits (Nat.mod_eq_zero_of_dvd ⟨n.toInt.natAbs, ?_⟩)
    rw [← Binary64.natAbs_signedUnits, ← h, Int.natAbs_mul, Int.natAbs_natCast, Nat.mul_comm]

/-- Keys tell numbers apart as far as these are told apart when they are held within the range of integers. -/
theorem key_eq_iff_held (ha : a.isNumber = true) (hb : b.isNumber = true) : a.key = b.key ↔ a.held = b.held := by
  cases hka : a.int? with
  | some m =>
    obtain ⟨hkey, hheld⟩ := key_of_int? ha hka
    cases hkb : b.int? with
    | some n =>
      obtain ⟨hkey', hheld'⟩ := key_of_int? hb hkb
      rw [hkey, hkey', hheld, hheld', Option.some.injEq]
      refine ⟨fun h => by rw [Numeral.int64Text_injective h], fun h => ?_⟩
      rw [Int64.toInt_inj.1 (Int.eq_of_mul_eq_mul_right (ne_of_gt one_pos) h)]
    | none =>
      obtain ⟨hkeys, hhelds⟩ := key_ne_of_fraction ha hb hka hkb
      exact iff_of_false hkeys hhelds
  | none =>
    cases hkb : b.int? with
    | some n =>
      obtain ⟨hkeys, hhelds⟩ := key_ne_of_fraction hb ha hkb hka
      exact iff_of_false hkeys.symm hhelds.symm
    | none =>
      obtain ⟨x, rfl, hx, hfx, hkey, hheld⟩ := exists_float_of_int?_eq_none ha hka
      obtain ⟨y, rfl, hy, hfy, hkey', hheld'⟩ := exists_float_of_int?_eq_none hb hkb
      rw [hkey, hkey', hheld, hheld', Option.some.injEq]
      refine ⟨Binary64.signedUnits_eq_of_plainText hx hy hfx hfy, fun h => ?_⟩
      rw [Binary64.eq_of_signedUnits_eq h fun hzero => hfx (by rw [hzero, Nat.zero_mod])]

theorem held_eq_iff : a.held = b.held ↔ a.steps = b.steps ∨ AtSameEnd a b := by
  have hends : -9223372036854775808 * (Binary64.one : Int) < 9223372036854775807 * Binary64.one :=
    Int.mul_lt_mul_of_pos_right (by decide) one_pos
  unfold held AtSameEnd
  omega

/-! ## What equality tells apart -/

/-- Equality compares numbers after rounding, and two integers as they are. -/
theorem looseEq_iff (ha : a.isNumber = true) (hb : b.isNumber = true) :
    a.looseEq b = true ↔ a.level = b.level ∧ (a.isInteger = true → b.isInteger = true → a.steps = b.steps) := by
  have hfloats : ∀ {x y : Binary64}, x.isNaN = false → y.isNaN = false →
      (x.order y = some .eq ↔ x.signedUnits = y.signedUnits) := by
    intro x y hx hy
    rw [Binary64.order_eq_some hx hy, Option.some.injEq, Int.compare_eq_eq]
  rcases number_forms ha with ⟨m, rfl⟩ | ⟨x, rfl, hx⟩ <;> rcases number_forms hb with ⟨n, rfl⟩ | ⟨y, rfl, hy⟩
  · rw [looseEq_int, decide_eq_true_eq]
    refine ⟨fun h => by rw [h]; exact ⟨rfl, fun _ _ => rfl⟩, fun h => ?_⟩
    exact Int64.toInt_inj.1 (Int.eq_of_mul_eq_mul_right (ne_of_gt one_pos) (h.2 rfl rfl))
  · rw [looseEq, if_pos ⟨rfl, rfl⟩, decide_eq_true_eq, order, hfloats (isNaN_ofInt m) (Binary64.isNaN_of_isFinite hy)]
    exact ⟨fun h => ⟨h, fun _ hy => absurd hy Bool.false_ne_true⟩, And.left⟩
  · rw [looseEq, if_pos ⟨rfl, rfl⟩, decide_eq_true_eq, order, hfloats (Binary64.isNaN_of_isFinite hx) (isNaN_ofInt n)]
    exact ⟨fun h => ⟨h, fun hx => absurd hx Bool.false_ne_true⟩, And.left⟩
  · rw [looseEq, if_pos ⟨rfl, rfl⟩, decide_eq_true_eq, order,
      hfloats (Binary64.isNaN_of_isFinite hx) (Binary64.isNaN_of_isFinite hy)]
    exact ⟨fun h => ⟨h, fun hx => absurd hx Bool.false_ne_true⟩, And.left⟩

/-- Equal numbers are equal after rounding. -/
theorem level_eq_of_steps_eq (ha : a.isNumber = true) (hb : b.isNumber = true) (h : a.steps = b.steps) :
    a.level = b.level := by
  rcases number_forms ha with ⟨m, rfl⟩ | ⟨x, rfl, -⟩ <;> rcases number_forms hb with ⟨n, rfl⟩ | ⟨y, rfl, -⟩
  · rw [Int64.toInt_inj.1 (Int.eq_of_mul_eq_mul_right (ne_of_gt one_pos) h)]
  · exact Binary64.signedUnits_ofInt_of_eq (natAbs_toInt_le m) h
  · exact (Binary64.signedUnits_ofInt_of_eq (natAbs_toInt_le n) h.symm).symm
  · exact h

/-- No two integers are beyond the ends of the integers. -/
theorem steps_eq_of_atSameEnd (ha : a.isInteger = true) (hb : b.isInteger = true) (h : AtSameEnd a b) :
    a.steps = b.steps := by
  have hends : ∀ {v : Value}, v.isInteger = true → -9223372036854775808 * (Binary64.one : Int) ≤ v.steps ∧
      v.steps ≤ 9223372036854775807 * Binary64.one := by
    intro v hv
    cases v with
    | int n =>
      have hhigh := n.toInt_lt
      exact ⟨Int.mul_le_mul_of_nonneg_right n.le_toInt one_pos.le, Int.mul_le_mul_of_nonneg_right (by omega) one_pos.le⟩
    | _ => cases hv
  obtain ⟨hlow, hhigh⟩ := hends ha
  obtain ⟨hlow', hhigh'⟩ := hends hb
  unfold AtSameEnd at h
  omega

/-- Up to the fifty-third power of two no numbers are mixed up. -/
theorem not_mixed_of_small (ha : a.isNumberCell = true) (hb : b.isNumberCell = true)
    (hsmall : a.steps.natAbs ≤ twoTo 53 * Binary64.one) (hsmall' : b.steps.natAbs ≤ twoTo 53 * Binary64.one) :
    ¬Mixed a b := by
  have hpos : 0 < Binary64.one := Binary64.one_pos
  have hlevel : ∀ {v : Value}, v.isNumberCell = true → v.steps.natAbs ≤ twoTo 53 * Binary64.one →
      v.level = v.steps := by
    intro v hv hv'
    cases v with
    | int n =>
      rw [steps, Int.natAbs_mul, Int.natAbs_natCast] at hv'
      exact Binary64.signedUnits_ofInt_eq (Nat.le_of_mul_le_mul_right hv' hpos)
    | _ => rfl
  rintro (⟨hsame, hdiffer, -⟩ | ⟨-, hend⟩)
  · exact hdiffer (by rw [← hlevel ha hsmall, hsame, hlevel hb hsmall'])
  · rw [show twoTo 53 = 9007199254740992 from rfl] at hsmall
    unfold AtSameEnd at hend
    omega

theorem agree_iff {same rounded integers ends : Prop} (hrounds : same → rounded) (hends : integers → ends → same) :
    ((same ∨ ends) ↔ (rounded ∧ (integers → same))) ↔ ¬((rounded ∧ ¬same ∧ ¬integers ∧ ¬ends) ∨ (¬rounded ∧ ends)) := by
  tauto

/-- Two numbers are mixed up exactly when their keys and equality disagree. -/
theorem key_eq_iff_looseEq_iff (ha : a.isNumber = true) (hb : b.isNumber = true) :
    (a.key = b.key ↔ a.looseEq b = true) ↔ ¬Mixed a b := by
  rw [key_eq_iff_held ha hb, held_eq_iff, looseEq_iff ha hb, ← and_imp]
  exact agree_iff (level_eq_of_steps_eq ha hb) fun hintegers => steps_eq_of_atSameEnd hintegers.1 hintegers.2

/-! ## Cells -/

theorem exists_key (h : v.isNumber = true) : ∃ k, v.key = some k := by
  rcases number_forms h with ⟨n, rfl⟩ | ⟨x, rfl, -⟩
  · exact ⟨_, rfl⟩
  · exact ⟨_, rfl⟩

theorem isNull_of_isNumber (h : v.isNumber = true) : v.isNull = false := by
  rcases number_forms h with ⟨n, rfl⟩ | ⟨x, rfl, -⟩
  · rfl
  · rfl

/-- Two cells have the same key when neither is null and they are equal. -/
theorem exists_key_iff (ha : a.isNumberCell = true) (hb : b.isNumberCell = true) (h : ¬Mixed a b) :
    (∃ k, a.key = some k ∧ b.key = some k) ↔ a.isNull = false ∧ b.isNull = false ∧ a.looseEq b = true := by
  rcases isNumberCell_cases ha with rfl | ha
  · exact iff_of_false (fun ⟨_, hk, _⟩ => nomatch hk) (fun hnone => nomatch hnone.1)
  rcases isNumberCell_cases hb with rfl | hb
  · exact iff_of_false (fun ⟨_, _, hk⟩ => nomatch hk) (fun hnone => nomatch hnone.2.1)
  rw [← (key_eq_iff_looseEq_iff ha hb).2 h, and_iff_right (isNull_of_isNumber ha),
    and_iff_right (isNull_of_isNumber hb)]
  obtain ⟨k, hk⟩ := exists_key ha
  rw [hk]
  exact ⟨fun ⟨_, hk', hkb⟩ => hk'.trans hkb.symm, fun hkb => ⟨k, rfl, hkb.symm⟩⟩

/-- A cell that is no text is compared with an operand as it is. -/
theorem operandFor_eq (ha : a.isNumberCell = true) (operand : Value) : operandFor a operand = operand := by
  rcases isNumberCell_cases ha with rfl | ha
  · rfl
  · rcases number_forms ha with ⟨n, rfl⟩ | ⟨x, rfl, -⟩
    · rfl
    · rfl

theorem holds_isIn_iff (ha : a.isNumberCell = true) {vs : List Value} :
    Operator.isIn.holds a (.list vs) = true ↔ a.isNull = false ∧ ∃ v ∈ vs, a.looseEq v = true := by
  simp only [Operator.holds, reduceCtorEq, false_and, if_false, operandFor_eq ha, Operator.compares, isAmong,
    Bool.and_eq_true, Bool.not_eq_true', List.any_eq_true]

theorem holds_eq_iff (ha : a.isNumberCell = true) (hb : b.isNull = false) :
    Operator.eq.holds a b = true ↔ a.isNull = false ∧ a.looseEq b = true := by
  simp only [Operator.holds, hb, reduceCtorEq, and_false, Bool.false_eq_true, if_false, operandFor_eq ha,
    Operator.compares, Bool.and_eq_true, Bool.not_eq_true']

end Value

/-! ## Rows -/

namespace Record

/-- Whether the cells of some rows in a column are numbers or null. -/
def NumbersIn (column : String) (rows : List Record) : Prop :=
  ∀ row ∈ rows, (cell row column).isNumberCell = true

theorem passes_compare (row : Record) (column : String) (op : Operator) (operand : Value) :
    passes row [.compare column op operand] = op.holds (cell row column) operand :=
  rfl

/-- Whether a filter for the key of a row finds another row. -/
def Finds (column : String) (row other : Record) : Prop :=
  (cell row column).isNull = false ∧ passes other [.compare column .eq (cell row column)] = true

theorem finds_iff {column : String} {row other : Record} (hrow : (cell row column).isNumberCell = true)
    (hother : (cell other column).isNumberCell = true) (h : ¬Value.Mixed (cell other column) (cell row column)) :
    Finds column row other ↔ ∃ k, Table.keyAt column other = some k ∧ Table.keyAt column row = some k := by
  rw [Table.keyAt_eq, Table.keyAt_eq, Value.exists_key_iff hother hrow h, Finds, passes_compare]
  constructor
  · rintro ⟨hnull, hpasses⟩
    obtain ⟨hnull', hequal⟩ := (Value.holds_eq_iff hother hnull).1 hpasses
    exact ⟨hnull', hnull, hequal⟩
  · rintro ⟨hnull', hnull, hequal⟩
    exact ⟨hnull, (Value.holds_eq_iff hother hnull).2 ⟨hnull', hequal⟩⟩

end Record

namespace Stitch

variable {parents children : List Record} {localKey foreignKey : String}

/-- The rows that are fetched for the keys of some rows are those that are attached to one of them. -/
theorem fetched_iff_attached (hparents : Record.NumbersIn localKey parents)
    (hchildren : Record.NumbersIn foreignKey children)
    (h : ∀ child ∈ children, ∀ parent ∈ parents, ¬Value.Mixed (child.cell foreignKey) (parent.cell localKey))
    {child : Record} (hchild : child ∈ children) :
    child.passes [.compare foreignKey .isIn (.list (keysIn localKey parents))] = true ↔
      ∃ parent ∈ parents, child ∈ withKey foreignKey (keyAt localKey parent) children := by
  rw [Record.passes_compare, Value.holds_isIn_iff (hchildren child hchild)]
  -- each key that is asked for is the cell of a row
  have hcell : ∀ v ∈ keysIn localKey parents, ∃ parent ∈ parents, parent.cell localKey = v := by
    intro v hv
    obtain ⟨-, parent, hparent, hget⟩ := mem_keysIn hv
    exact ⟨parent, hparent, by rw [Record.cell, hget]; rfl⟩
  have hsame : ∀ parent ∈ parents, _ := fun parent hparent =>
    Value.exists_key_iff (hchildren child hchild) (hparents parent hparent) (h child hchild parent hparent)
  constructor
  · rintro ⟨hnull, v, hv, hequal⟩
    obtain ⟨parent, hparent, rfl⟩ := hcell v hv
    have hnull' : (parent.cell localKey).isNull = false := by
      obtain ⟨k, hk⟩ := Option.isSome_iff_exists.1 (mem_keysIn hv).1
      cases hvalue : parent.cell localKey <;> first | rfl | (rw [hvalue] at hk; cases hk)
    obtain ⟨k, hk, hk'⟩ := (hsame parent hparent).2 ⟨hnull, hnull', hequal⟩
    exact ⟨parent, hparent, mem_withKey_iff.2 ⟨hchild, k, by rw [keyAt_eq, hk'], by rw [keyAt_eq, hk]⟩⟩
  · rintro ⟨parent, hparent, hattached⟩
    obtain ⟨-, k, hk', hk⟩ := mem_withKey_iff.1 hattached
    obtain ⟨v, hv, hvk⟩ := exists_mem_keysIn.2 ⟨parent, hparent, hk'⟩
    -- the first row with the key stands for all later ones
    obtain ⟨first, hfirst, rfl⟩ := hcell v hv
    obtain ⟨hnull, -, hequal⟩ := (hsame first hfirst).1 ⟨k, by rw [← keyAt_eq, hk], hvk⟩
    exact ⟨hnull, _, hv, hequal⟩

end Stitch

namespace Table

/-- New rows are accepted when filters for their keys find no row that is there already, and none before them. -/
theorem accepted_iff_not_found {t : Table} {key : String} (hkey : t.primaryKey = some key) {incoming : List Record}
    (hnumbers : Record.NumbersIn key (t.rows ++ incoming))
    (h : ∀ other ∈ t.rows ++ incoming, ∀ row ∈ incoming, ¬Value.Mixed (other.cell key) (row.cell key)) (name : String) :
    t.checkPrimaryKeys name incoming = .ok () ↔
      (∀ row ∈ incoming, ∀ stored ∈ t.rows, ¬Record.Finds key row stored) ∧
        incoming.Pairwise fun earlier row => ¬Record.Finds key row earlier := by
  have hfinds : ∀ other ∈ t.rows ++ incoming, ∀ row ∈ incoming, (Record.Finds key row other ↔
      ∃ k, keyAt key other = some k ∧ keyAt key row = some k) := fun other hother row hrow =>
    Record.finds_iff (hnumbers row (List.mem_append_right _ hrow)) (hnumbers other hother) (h other hother row hrow)
  rw [checkPrimaryKeys, hkey]
  dsimp only
  rw [checkKeys_eq_ok_iff, and_comm, List.Nodup, List.pairwise_filterMap]
  refine and_congr ?_ ?_
  · simp only [List.mem_filterMap, forall_exists_index, and_imp]
    constructor
    · intro hnew row hrow stored hstored hfound
      obtain ⟨k, hk, hk'⟩ := (hfinds stored (List.mem_append_left _ hstored) row hrow).1 hfound
      exact hnew k row hrow hk' ⟨stored, hstored, hk⟩
    · rintro hnone k row hrow hk' ⟨stored, hstored, hk⟩
      exact hnone row hrow stored hstored ((hfinds stored (List.mem_append_left _ hstored) row hrow).2 ⟨k, hk, hk'⟩)
  · refine List.Pairwise.iff_of_mem fun {earlier row} hearlier hrow => ?_
    rw [hfinds earlier (List.mem_append_right _ hearlier) row hrow]
    constructor
    · rintro hdiffer ⟨k, hk, hk'⟩
      exact hdiffer k hk k hk' rfl
    · rintro hnone k hk k' hk' rfl
      exact hnone ⟨k, hk, hk'⟩

end Table

/-- Two finite numbers are told apart in the same way by their keys and by equality exactly when they are not mixed up.
Where no cells are, the rows that are fetched for the keys of others are those that these can attach, and new rows are
refused as duplicates exactly when a filter for the key of one finds a row that is there already or comes before it. -/
theorem Value.matched_unless_mixed {a b : Value} (ha : a.isNumber = true) (hb : b.isNumber = true) :
    ((a.key = b.key ↔ a.looseEq b = true) ↔ ¬a.Mixed b) ∧
      (∀ (parents children : List Record) (localKey foreignKey : String),
        Record.NumbersIn localKey parents → Record.NumbersIn foreignKey children →
        (∀ child ∈ children, ∀ parent ∈ parents, ¬(child.cell foreignKey).Mixed (parent.cell localKey)) →
        ∀ child ∈ children,
          (child.passes [.compare foreignKey .isIn (.list (Stitch.keysIn localKey parents))] = true ↔
            ∃ parent ∈ parents,
              child ∈ Stitch.withKey foreignKey (Stitch.keyAt localKey parent) children)) ∧
      ∀ (t : Table) (name key : String) (incoming : List Record), t.primaryKey = some key →
        Record.NumbersIn key (t.rows ++ incoming) →
        (∀ other ∈ t.rows ++ incoming, ∀ row ∈ incoming, ¬(other.cell key).Mixed (row.cell key)) →
        (t.checkPrimaryKeys name incoming = .ok () ↔
          (∀ row ∈ incoming, ∀ stored ∈ t.rows, ¬Record.Finds key row stored) ∧
            incoming.Pairwise fun earlier row => ¬Record.Finds key row earlier) :=
  ⟨key_eq_iff_looseEq_iff ha hb,
    fun _ _ _ _ hparents hchildren h _ hchild => Stitch.fetched_iff_attached hparents hchildren h hchild,
    fun _ name _ _ hkey hnumbers h => Table.accepted_iff_not_found hkey hnumbers h name⟩

namespace Sample

/-- Rows with the number of a stall, as an integer or not, and one without. -/
def stallRows : List Record :=
  [[("stall", .int 3)], [("stall", .float ⟨0x3ff8000000000000⟩)], [("stall", .null)]]

/-- Rows with the number of a stall, among them one of the others in the other form. -/
def tradeRows : List Record :=
  [[("stall", .float ⟨0x4008000000000000⟩)], [("stall", .int 4)], []]

/-- A table of these rows with the numbers as their keys. -/
def stalls : Table :=
  ⟨[⟨"stall", "numeric", true, none, none, none⟩], [], some "stall", false, 1, stallRows⟩

/-- The numbers of the rows are small, so keys and equality agree on them. -/
theorem not_mixed_stalls (other : Record) (hother : other ∈ stallRows ++ tradeRows) (row : Record)
    (hrow : row ∈ stallRows ++ tradeRows) : ¬(other.cell "stall").Mixed (row.cell "stall") := by
  have hnumbers : ∀ row ∈ stallRows ++ tradeRows, (row.cell "stall").isNumberCell = true := by decide +kernel
  have hsmall : ∀ row ∈ stallRows ++ tradeRows, (row.cell "stall").steps.natAbs ≤ twoTo 53 * Binary64.one := by
    decide +kernel
  exact Value.not_mixed_of_small (hnumbers other hother) (hnumbers row hrow) (hsmall other hother) (hsmall row hrow)

theorem stalls_matched :
    (((Value.int 3).key = (Value.float ⟨0x4008000000000000⟩).key ↔
        (Value.int 3).looseEq (.float ⟨0x4008000000000000⟩) = true) ↔
      ¬(Value.int 3).Mixed (.float ⟨0x4008000000000000⟩)) ∧
      (∀ trade ∈ tradeRows,
        (trade.passes [.compare "stall" .isIn (.list (Stitch.keysIn "stall" stallRows))] = true ↔
          ∃ stall ∈ stallRows, trade ∈ Stitch.withKey "stall" (Stitch.keyAt "stall" stall) tradeRows)) ∧
      (stalls.checkPrimaryKeys "stalls" tradeRows = .ok () ↔
        (∀ row ∈ tradeRows, ∀ stored ∈ stallRows, ¬Record.Finds "stall" row stored) ∧
          tradeRows.Pairwise fun earlier row => ¬Record.Finds "stall" row earlier) := by
  have hthree : (Value.float ⟨0x4008000000000000⟩).isNumber = true := by decide
  obtain ⟨hpair, hrows, hkeys⟩ := Value.matched_unless_mixed (a := .int 3) rfl hthree
  refine ⟨hpair, ?_, ?_⟩
  · exact hrows stallRows tradeRows "stall" "stall" (by unfold Record.NumbersIn; decide +kernel)
      (by unfold Record.NumbersIn; decide +kernel) fun trade htrade stall hstall =>
        not_mixed_stalls trade (List.mem_append_right _ htrade) stall (List.mem_append_left _ hstall)
  · exact hkeys stalls "stalls" "stall" tradeRows rfl (by unfold Record.NumbersIn; decide +kernel)
      fun other hother row hrow => not_mixed_stalls other hother row (List.mem_append_right _ hrow)

/-- A row with an integer that rounding changes. -/
def roundedAway : Record :=
  [("id", .int 9007199254740993)]

/-- A row with the number that this integer is rounded to. -/
def roundedTo : Record :=
  [("ref", .float ⟨0x4340000000000000⟩)]

/-- Two rows with numbers below all integers. -/
def farBelow : Record :=
  [("stall", .float ⟨0xfe37e43c8800759c⟩)]

def fartherBelow : Record :=
  [("stall", .float ⟨0xfe47e43c8800759c⟩)]

/-- An integer that is rounded to a number is equal to it and has another key: the row with the number is fetched and
not attached. Two numbers below all integers differ and have the same key: the row with the second one is refused as a
duplicate, though a filter for it finds nothing. -/
theorem large_numbers_mixed :
    ((roundedAway.cell "id").isNumber = true ∧ (roundedTo.cell "ref").isNumber = true ∧
        (roundedTo.cell "ref").looseEq (roundedAway.cell "id") = true ∧
        (roundedTo.cell "ref").key ≠ (roundedAway.cell "id").key ∧
        roundedTo.passes [.compare "ref" .isIn (.list (Stitch.keysIn "id" [roundedAway]))] = true ∧
        (Stitch.withKey "ref" (Stitch.keyAt "id" roundedAway) [roundedTo]).isEmpty = true) ∧
      (farBelow.cell "stall").isNumber = true ∧ (fartherBelow.cell "stall").isNumber = true ∧
        (farBelow.cell "stall").looseEq (fartherBelow.cell "stall") = false ∧
        (farBelow.cell "stall").key = (fartherBelow.cell "stall").key ∧
        ({ stalls with rows := [farBelow] }.checkPrimaryKeys "stalls" [fartherBelow]).toOption = none ∧
        ¬Record.Finds "stall" fartherBelow farBelow := by
  unfold Record.Finds
  decide +kernel

end Sample

end DataModel

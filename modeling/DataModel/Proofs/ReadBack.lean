import DataModel.Proofs.Shortest
import Mathlib.Algebra.Order.Field.Rat
import Mathlib.Tactic.FieldSimp
import Mathlib.Tactic.Linarith
import Mathlib.Tactic.Positivity

/-!
# Numbers told apart by their text

The numbers that round to a number form an interval, and the intervals of two numbers that differ have no number in
common: where they meet, one of them is open. Seventeen digits are enough for one of the two decimals next to a number
with a fraction to lie in its interval, and to drop zeros does not change what a decimal stands for. So numbers with a
fraction that differ have different texts.
-/

namespace DataModel

namespace Binary64

/-! ## What a decimal stands for -/

namespace Decimal

/-- The number that a decimal stands for. -/
def value (d : Decimal) : ℚ :=
  d.digits * (10 : ℚ) ^ d.exponent

/-- A zero at the end may be dropped. -/
theorem value_times_ten (digits : Nat) (exponent : Int) :
    value ⟨digits * 10, exponent⟩ = value ⟨digits, exponent + 1⟩ := by
  rw [value, value, zpow_add_one₀ (by norm_num)]
  push_cast
  ring

/-- To drop zeros does not change what a decimal stands for. -/
theorem value_stripped (n : Nat) (d : Decimal) : (d.stripped n).value = d.value := by
  induction n generalizing d with
  | zero => rfl
  | succ n ih =>
    unfold stripped
    split
    next hzero =>
      have hdigits : d.digits / 10 * 10 = d.digits := Nat.div_mul_cancel (Nat.dvd_of_mod_eq_zero hzero)
      rw [ih, ← value_times_ten, hdigits]
    next => rfl

/-- The decimal times the power of ten that makes it whole. -/
theorem value_mul (d : Decimal) :
    d.value * (tenTo (-d.exponent).toNat : ℕ) = (d.digits * tenTo d.exponent.toNat : ℕ) := by
  obtain ⟨digits, exponent⟩ := d
  rw [value, tenTo_eq, tenTo_eq, Nat.cast_mul, Nat.cast_pow, Nat.cast_pow, Nat.cast_ofNat, mul_assoc]
  congr 1
  dsimp only
  obtain ⟨n, rfl | rfl⟩ := exponent.eq_nat_or_neg
  · rw [Int.toNat_natCast, Int.toNat_of_nonpos (by omega), zpow_natCast, pow_zero, mul_one]
  · rw [Int.neg_neg, Int.toNat_natCast, Int.toNat_of_nonpos (by omega), zpow_neg, zpow_natCast, pow_zero]
    exact inv_mul_cancel₀ (by positivity)

theorem le_value_mul_iff (d : Decimal) (a k : Nat) :
    (a : ℚ) ≤ d.value * k ↔ a * tenTo (-d.exponent).toNat ≤ d.digits * tenTo d.exponent.toNat * k := by
  have hpos : (0 : ℚ) < (tenTo (-d.exponent).toNat : ℕ) := Nat.cast_pos.2 (tenTo_pos _)
  rw [← mul_le_mul_iff_left₀ hpos, mul_right_comm, value_mul, ← Nat.cast_mul, ← Nat.cast_mul, Nat.cast_le]

theorem value_mul_le_iff (d : Decimal) (a k : Nat) :
    d.value * k ≤ a ↔ d.digits * tenTo d.exponent.toNat * k ≤ a * tenTo (-d.exponent).toNat := by
  have hpos : (0 : ℚ) < (tenTo (-d.exponent).toNat : ℕ) := Nat.cast_pos.2 (tenTo_pos _)
  rw [← mul_le_mul_iff_left₀ hpos, mul_right_comm, value_mul, ← Nat.cast_mul, ← Nat.cast_mul, Nat.cast_le]

end Decimal

/-! ## Intervals -/

/-- Whether a number lies in an interval, given in quarters of a step. -/
structure Interval.Contains (i : Interval) (scale : Nat) (v : ℚ) : Prop where
  low : (i.low * twoTo scale : ℕ) ≤ v * (4 * one : ℕ)
  high : v * (4 * one : ℕ) ≤ (i.high * twoTo scale : ℕ)
  ends : i.closed = false →
    (i.low * twoTo scale : ℕ) < v * (4 * one : ℕ) ∧ v * (4 * one : ℕ) < (i.high * twoTo scale : ℕ)

/-- The test of a decimal is one of the number that it stands for. -/
theorem Interval.contains_value {i : Interval} {scale : Nat} {d : Decimal} (h : i.has scale d = true) :
    i.Contains scale d.value := by
  have hle := fun a => (d.le_value_mul_iff (a * twoTo scale) (4 * one)).symm
  have hge := fun a => (d.value_mul_le_iff (a * twoTo scale) (4 * one)).symm
  simp only [Nat.mul_assoc] at hle hge
  unfold has at h
  simp only [Nat.mul_assoc] at h
  split at h
  next hclosed =>
    rw [Bool.and_eq_true, decide_eq_true_eq, decide_eq_true_eq] at h
    exact ⟨(hle _).1 h.1, (hge _).1 h.2, fun hopen => absurd (hclosed.symm.trans hopen) nofun⟩
  next =>
    rw [Bool.and_eq_true, decide_eq_true_eq, decide_eq_true_eq] at h
    have hlow := lt_of_not_ge (mt (hge _).2 (Nat.not_le.2 h.1))
    have hhigh := lt_of_not_ge (mt (hle _).2 (Nat.not_le.2 h.2))
    exact ⟨hlow.le, hhigh.le, fun _ => ⟨hlow, hhigh⟩⟩

variable {x y : Binary64}

/-- A significand above the smallest steps has its leading one. -/
theorem twoTo_le_significand (h : x.scale ≠ 0) : twoTo 52 ≤ x.significand := by
  unfold scale at h
  rw [significand, if_neg (by omega)]
  exact Nat.le_add_right _ _

/-- Larger steps make a greater number. -/
theorem units_lt_of_scale_lt (h : x.scale < y.scale) : x.units < y.units := by
  have hdouble : twoTo 53 = 2 * twoTo 52 := rfl
  calc x.units < twoTo 53 * twoTo x.scale := Nat.mul_lt_mul_of_pos_right x.significand_lt (twoTo_pos _)
    _ = twoTo 52 * twoTo (x.scale + 1) := by
      rw [hdouble, twoTo_add, show twoTo 1 = 2 from rfl]
      ring
    _ ≤ y.units := Nat.mul_le_mul (twoTo_le_significand (Nat.ne_of_gt (Nat.zero_lt_of_lt h))) (twoTo_mono h)

/-- A word is its sign and its magnitude. -/
theorem eq_of_units_eq (h : x.units = y.units) (hnegative : x.negative = y.negative) : x = y := by
  have hscale : x.scale = y.scale := by
    rcases Nat.lt_trichotomy x.scale y.scale with hlt | heq | hgt
    · exact absurd h (Nat.ne_of_lt (units_lt_of_scale_lt hlt))
    · exact heq
    · exact absurd h (Nat.ne_of_gt (units_lt_of_scale_lt hgt))
  have hsignificand : x.significand = y.significand := by
    rw [units, units, hscale] at h
    exact Nat.eq_of_mul_eq_mul_right (twoTo_pos _) h
  have hx := x.bits.toNat_lt
  have hy := y.bits.toNat_lt
  rw [negative, negative, decide_eq_decide] at hnegative
  obtain ⟨a⟩ := x
  obtain ⟨b⟩ := y
  congr 1
  rw [← UInt64.toNat_inj]
  simp only [scale, significand, exponentField, fraction] at hscale hsignificand
  simp only [show twoTo 63 = 9223372036854775808 from rfl, show twoTo 52 = 4503599627370496 from rfl,
    show twoTo 11 = 2048 from rfl] at *
  split at hsignificand <;> split at hsignificand <;> omega

/-- The lower end of an interval is half a step away, but for a power of two a quarter. -/
theorem interval_low (x : Binary64) :
    (x.interval.low = 4 * x.significand - 2 ∧ (x.scale ≠ 0 → twoTo 52 < x.significand)) ∨
      (x.interval.low = 4 * x.significand - 1 ∧ x.significand = twoTo 52) := by
  unfold interval
  dsimp only
  split
  next hpower =>
    refine Or.inr ⟨rfl, ?_⟩
    rw [significand, if_neg (by omega), hpower.1, Nat.add_zero]
  next hother =>
    refine Or.inl ⟨rfl, fun hscale => ?_⟩
    unfold scale at hscale
    rw [significand, if_neg (by omega)]
    omega

/-- Of two magnitudes the interval of the smaller one ends where that of the greater one starts, or before. Where they
meet, one of them is open. -/
theorem interval_le (h : x.units < y.units) :
    x.interval.high * twoTo x.scale ≤ y.interval.low * twoTo y.scale ∧
      (x.interval.high * twoTo x.scale = y.interval.low * twoTo y.scale →
        x.interval.closed = false ∨ y.interval.closed = false) := by
  have hhigh : x.interval.high = 4 * x.significand + 2 := rfl
  have hclosed : ∀ z : Binary64, z.interval.closed = decide (z.significand % 2 = 0) := fun z => rfl
  have hfraction : twoTo 52 = 4503599627370496 := rfl
  have hdouble : twoTo 53 = 9007199254740992 := rfl
  have hx := x.significand_lt
  have hlow := y.interval_low
  rw [hhigh, hclosed, hclosed, decide_eq_false_iff_not, decide_eq_false_iff_not]
  rcases Nat.lt_trichotomy x.scale y.scale with hlt | heq | hgt
  · -- the greater number is a power of two times steps at least twice as large
    obtain ⟨more, hmore⟩ := Nat.exists_eq_add_of_lt hlt
    have hscale : twoTo y.scale = 2 * twoTo more * twoTo x.scale := by
      rw [hmore, twoTo_add, twoTo_add, show twoTo 1 = 2 from rfl]
      ring
    have hpos := twoTo_pos x.scale
    have hmany : y.interval.low * 2 ≤ y.interval.low * (2 * twoTo more) :=
      Nat.mul_le_mul_left _ (Nat.le_mul_of_pos_right 2 (twoTo_pos more))
    have hy := twoTo_le_significand (x := y) (by omega)
    rw [hscale, ← Nat.mul_assoc, Nat.mul_le_mul_right_iff hpos, Nat.mul_left_inj (Nat.ne_of_gt hpos)]
    omega
  · rw [units, units, heq, Nat.mul_lt_mul_right (twoTo_pos _)] at h
    rw [heq, Nat.mul_le_mul_right_iff (twoTo_pos _), Nat.mul_left_inj (Nat.ne_of_gt (twoTo_pos _))]
    omega
  · exact absurd h (Nat.not_lt.2 (units_lt_of_scale_lt hgt).le)

theorem not_contains_of_units_lt {v : ℚ} (h : x.units < y.units) (hx : x.interval.Contains x.scale v)
    (hy : y.interval.Contains y.scale v) : False := by
  obtain ⟨hle, hopen⟩ := interval_le h
  have hmeet : (x.interval.high * twoTo x.scale : ℕ) ≤ ((y.interval.low * twoTo y.scale : ℕ) : ℚ) := Nat.cast_le.2 hle
  have hsame : x.interval.high * twoTo x.scale = y.interval.low * twoTo y.scale :=
    Nat.le_antisymm hle (by exact_mod_cast hy.low.trans hx.high)
  rcases hopen hsame with hopen | hopen
  · exact absurd ((hx.ends hopen).2.trans_le (hmeet.trans hy.low)) (lt_irrefl _)
  · exact absurd ((hx.high.trans hmeet).trans_lt (hy.ends hopen).1) (lt_irrefl _)

/-- A number lies in the interval of one magnitude only. -/
theorem units_eq_of_contains {v : ℚ} (hx : x.interval.Contains x.scale v) (hy : y.interval.Contains y.scale v) :
    x.units = y.units := by
  rcases Nat.lt_trichotomy x.units y.units with hlt | heq | hgt
  · exact (not_contains_of_units_lt hlt hx hy).elim
  · exact heq
  · exact (not_contains_of_units_lt hgt hy hx).elim

/-! ## Seventeen digits -/

theorem has_of_lt {i : Interval} {scale : Nat} {d : Decimal}
    (hlow : i.low * (twoTo scale * tenTo (-d.exponent).toNat) < d.digits * tenTo d.exponent.toNat * (4 * one))
    (hhigh : d.digits * tenTo d.exponent.toNat * (4 * one) < i.high * (twoTo scale * tenTo (-d.exponent).toNat)) :
    i.has scale d = true := by
  unfold Interval.has
  dsimp only
  split
  · rw [Bool.and_eq_true, decide_eq_true_eq, decide_eq_true_eq]
    exact ⟨hlow.le, hhigh.le⟩
  · rw [Bool.and_eq_true, decide_eq_true_eq, decide_eq_true_eq]
    exact ⟨hlow, hhigh⟩

theorem exists_withDigits?_of_has {tie : Tie} {count : Nat}
    (h : x.interval.has x.scale (x.neighbours (x.leadingPower + 1 - count)).1 = true ∨
      x.interval.has x.scale (x.neighbours (x.leadingPower + 1 - count)).2 = true) :
    ∃ d, x.withDigits? tie count = some d := by
  unfold withDigits?
  dsimp only
  split
  · exact ⟨_, rfl⟩
  · exact ⟨_, rfl⟩
  · exact ⟨_, rfl⟩
  next hlower hupper => exact absurd h (by rw [hlower, hupper]; decide)

/-- The decimal places that seventeen digits have. In the steps of the significand they make sixteen digits at least. -/
theorem exists_places_eq (h : x.units % one ≠ 0) : ∃ places : Nat, x.leadingPower + 1 - (17 : Nat) = -(places : Int) ∧
    tenTo 16 * one ≤ x.significand * (twoTo x.scale * tenTo places) := by
  obtain ⟨count, hpower, hpos, hmost, hleast⟩ := exists_leadingPower_eq h
  obtain ⟨places, hplaces⟩ : ∃ places, count + places = 347 := ⟨347 - count, by omega⟩
  refine ⟨places, by omega, Nat.le_of_mul_le_mul_right ?_ (tenTo_pos 330)⟩
  have hpowers : tenTo (count - 1) * tenTo places = tenTo 16 * tenTo 330 := by
    rw [← tenTo_add, ← tenTo_add]
    exact congrArg tenTo (by omega)
  calc tenTo 16 * one * tenTo 330 = tenTo (count - 1) * one * tenTo places := by
        rw [Nat.mul_right_comm, ← hpowers]; ring
    _ ≤ x.units * tenTo 330 * tenTo places := Nat.mul_le_mul_right _ hleast
    _ = x.significand * (twoTo x.scale * tenTo places) * tenTo 330 := by rw [units]; ring

/-- The lower end of the interval, and how much finer than a step the decimals are. -/
theorem interval_low_cases {step : Nat} (h : tenTo 16 * one ≤ x.significand * step) :
    (x.interval.low * step = 4 * (x.significand * step) - 2 * step ∧ one < step) ∨
      (x.interval.low * step = 4 * (x.significand * step) - step ∧ 4 * one < 3 * step) := by
  have hpositive : 0 < one := one_pos
  have hmany : x.significand * step ≤ twoTo 53 * step := Nat.mul_le_mul_right step x.significand_lt.le
  rw [show twoTo 53 = 9007199254740992 from rfl] at hmany
  rw [show tenTo 16 = 10000000000000000 from rfl] at h
  rcases x.interval_low with ⟨hlow, -⟩ | ⟨hlow, hpower⟩
  · exact Or.inl ⟨by rw [hlow, Nat.sub_mul, Nat.mul_assoc], by omega⟩
  · rw [hpower, show twoTo 52 = 4503599627370496 from rfl] at h
    exact Or.inr ⟨by rw [hlow, Nat.sub_mul, Nat.mul_assoc, Nat.one_mul], by omega⟩

/-- One of two multiples next to a number lies between its ends, when these are far enough apart. -/
theorem between_of_fine {low value step whole : Nat} (hwhole : 0 < whole) (hstep : step ≤ value)
    (hlow : (low = 4 * value - 2 * step ∧ whole < step) ∨ (low = 4 * value - step ∧ 4 * whole < 3 * step)) :
    (low < value / whole * (4 * whole) ∧ value / whole * (4 * whole) < 4 * value + 2 * step) ∨
      (low < (value / whole + 1) * (4 * whole) ∧ (value / whole + 1) * (4 * whole) < 4 * value + 2 * step) := by
  have hsplit := Nat.div_add_mod' value whole
  have hrest := Nat.mod_lt value hwhole
  generalize value / whole = digits at hsplit
  have hlower : digits * (4 * whole) = 4 * (digits * whole) := by ring
  have hupper : (digits + 1) * (4 * whole) = 4 * (digits * whole) + 4 * whole := by ring
  omega

/-- Seventeen digits are enough for a number with a fraction: one of the decimals next to it rounds to it. -/
theorem exists_withDigits?_seventeen (h : x.units % one ≠ 0) (tie : Tie) : ∃ d, x.withDigits? tie 17 = some d := by
  obtain ⟨places, hplaces, hfine⟩ := exists_places_eq h
  obtain ⟨step, hstep⟩ : ∃ step, step = twoTo x.scale * tenTo places := ⟨_, rfl⟩
  rw [← hstep] at hfine
  have hup : (-(places : Int)).toNat = 0 := by omega
  have hdown : (-(-(places : Int))).toNat = places := by omega
  have hunits : x.units * tenTo places = x.significand * step := by rw [hstep, units, Nat.mul_assoc]
  have hhigh : x.interval.high * step = 4 * (x.significand * step) + 2 * step := by
    rw [show x.interval.high = 4 * x.significand + 2 from rfl]
    ring
  have hsome : step ≤ x.significand * step := by
    refine Nat.le_mul_of_pos_left step (Nat.pos_of_ne_zero fun hzero => h ?_)
    rw [units, hzero, Nat.zero_mul, Nat.zero_mod]
  apply exists_withDigits?_of_has
  rw [hplaces]
  simp only [neighbours, hup, hdown, show tenTo 0 = 1 from rfl, Nat.mul_one, hunits]
  refine (between_of_fine one_pos hsome (interval_low_cases hfine)).imp (fun hlies => ?_) fun hlies => ?_ <;>
  · rw [← hhigh] at hlies
    refine has_of_lt ?_ ?_ <;> simp only [hup, hdown, ← hstep, show tenTo 0 = 1 from rfl, Nat.mul_one]
    · exact hlies.1
    · exact hlies.2

/-- Where some number of digits that is tried is enough, what is found rounds to the number. -/
theorem has_shortestFrom {tie : Tie} {enough n count : Nat} (h : ∃ d, x.withDigits? tie enough = some d)
    (hlow : count ≤ enough) (hhigh : enough < count + n) :
    x.interval.has x.scale (shortestFrom x tie n count) = true := by
  induction n generalizing count with
  | zero => omega
  | succ n ih =>
    unfold shortestFrom
    split
    next d hd => exact has_of_withDigits? hd
    next hnone =>
      refine ih (Nat.lt_of_le_of_ne hlow ?_) (by omega)
      rintro rfl
      obtain ⟨d, hd⟩ := h
      rw [hd] at hnone
      cases hnone

/-- The shortest decimal of a number with a fraction rounds to it. -/
theorem contains_shortest (h : x.units % one ≠ 0) (tie : Tie) :
    x.interval.Contains x.scale (x.shortest tie).value := by
  have hzero : x.isZero = false := decide_eq_false fun hzero => h (by rw [hzero, Nat.zero_mod])
  rw [shortest, hzero, if_neg Bool.false_ne_true, Decimal.value_stripped]
  exact Interval.contains_value (has_shortestFrom (exists_withDigits?_seventeen h tie) (by decide) (by decide))

/-! ## Texts -/

theorem eq_of_ofNat_padded {a b more more' : Nat}
    (h : List.replicate more '0' ++ Numeral.ofNat a = List.replicate more' '0' ++ Numeral.ofNat b) : a = b := by
  have hread : ∀ more n, Nat.ofDigitChars 10 (List.replicate more '0' ++ Numeral.ofNat n) 0 = n := by
    intro more n
    induction more with
    | zero => exact Nat.ofDigitChars_ten_toDigits
    | succ more ih => exact ih
  rw [← hread more a, h, hread]

theorem isDigit_of_mem_padded {more n : Nat} {c : Char} (h : c ∈ List.replicate more '0' ++ Numeral.ofNat n) :
    c.isDigit = true := by
  rw [List.mem_append] at h
  rcases h with h | h
  · rw [List.eq_of_mem_replicate h]
    rfl
  · exact Numeral.isDigit_of_mem_ofNat h

/-- The sign is told from the digits after it. -/
theorem sign_append_inj {negative negative' : Bool} {whole whole' : List Char} (h : ∀ c ∈ whole, c.isDigit = true)
    (hother : ∀ c ∈ whole', c.isDigit = true)
    (heq : (if negative then ['-'] else []) ++ whole = (if negative' then ['-'] else []) ++ whole') :
    negative = negative' ∧ whole = whole' := by
  have hminus : ¬ Char.isDigit '-' = true := by decide
  cases negative with
  | false =>
    cases negative' with
    | false => exact ⟨rfl, heq⟩
    | true =>
      have hwhole : whole = '-' :: whole' := heq
      exact absurd (h '-' (hwhole ▸ List.mem_cons_self)) hminus
  | true =>
    cases negative' with
    | false =>
      have hwhole : '-' :: whole = whole' := heq
      exact absurd (hother '-' (hwhole ▸ List.mem_cons_self)) hminus
    | true => exact ⟨rfl, List.tail_eq_of_cons_eq heq⟩

/-- Numbers with a fraction whose texts are the same have the same sign and the same decimal. -/
theorem shortest_eq_of_plainText (hx : x.isFinite = true) (hy : y.isFinite = true) (hfx : x.units % one ≠ 0)
    (hfy : y.units % one ≠ 0) (h : x.plainText = y.plainText) :
    x.negative = y.negative ∧ x.shortest .away = y.shortest .away := by
  obtain ⟨places, hplaces⟩ := Int.eq_negSucc_of_lt_zero (exponent_shortest_neg hfx .away)
  obtain ⟨places', hplaces'⟩ := Int.eq_negSucc_of_lt_zero (exponent_shortest_neg hfy .away)
  obtain ⟨more, whole, decimals, hdigits, hlength, htext⟩ := exists_toList_plainText_eq hx hplaces
  obtain ⟨more', whole', decimals', hdigits', hlength', htext'⟩ := exists_toList_plainText_eq hy hplaces'
  have hwritten : ∀ c ∈ whole ++ decimals, c.isDigit = true := fun c hc => isDigit_of_mem_padded (hdigits ▸ hc)
  have hwritten' : ∀ c ∈ whole' ++ decimals', c.isDigit = true := fun c hc => isDigit_of_mem_padded (hdigits' ▸ hc)
  -- the only point parts the two texts in the same way
  have hpoint : ¬ Char.isDigit '.' = true := by decide
  have hbefore : '.' ∉ (if x.negative then ['-'] else []) ++ whole := by
    rw [List.mem_append, not_or]
    refine ⟨?_, fun hmem => hpoint (hwritten _ (List.mem_append_left _ hmem))⟩
    split <;> decide
  have hafter : '.' ∉ decimals := fun hmem => hpoint (hwritten _ (List.mem_append_right _ hmem))
  rw [h, htext', ← List.append_assoc, ← List.append_assoc] at htext
  obtain ⟨hparts, -, rfl⟩ := (List.append_cons_inj_of_notMem hbefore hafter).1 htext.symm
  obtain ⟨hnegative, rfl⟩ := sign_append_inj (fun c hc => hwritten c (List.mem_append_left _ hc))
    (fun c hc => hwritten' c (List.mem_append_left _ hc)) hparts
  have hsame : (x.shortest .away).digits = (y.shortest .away).digits := eq_of_ofNat_padded (hdigits.symm.trans hdigits')
  obtain rfl : places = places' := Nat.succ.inj (hlength.symm.trans hlength')
  refine ⟨hnegative, ?_⟩
  rw [show x.shortest .away = ⟨(x.shortest .away).digits, (x.shortest .away).exponent⟩ from rfl, hsame, hplaces,
    ← hplaces']

/-- Numbers with a fraction whose texts are the same are equal. -/
theorem signedUnits_eq_of_plainText (hx : x.isFinite = true) (hy : y.isFinite = true) (hfx : x.units % one ≠ 0)
    (hfy : y.units % one ≠ 0) (h : x.plainText = y.plainText) : x.signedUnits = y.signedUnits := by
  obtain ⟨hnegative, hshortest⟩ := shortest_eq_of_plainText hx hy hfx hfy h
  have hunits := units_eq_of_contains (contains_shortest hfx .away) (hshortest ▸ contains_shortest hfy .away)
  rw [signedUnits, signedUnits, hnegative, hunits]

end Binary64

end DataModel

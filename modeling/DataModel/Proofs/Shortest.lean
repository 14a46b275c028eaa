import DataModel.Proofs.Numeral
import DataModel.Binary64.Shortest
import Mathlib.Tactic.Ring
import Mathlib.Tactic.NormNum

/-! A number with a fraction is written with decimal places. The numbers that round to it lie within half a step
of its significand, and the next whole number is a full step away; so no whole number is tried, and what is
left when no number of digits will do is no whole number either. -/

namespace DataModel

theorem tenTo_eq (n : Nat) : tenTo n = 10 ^ n :=
  rfl

namespace Binary64

namespace Decimal

/-- Whether a decimal stands for a whole number. -/
def IsWhole (d : Decimal) (n : Nat) : Prop :=
  d.digits * 10 ^ d.exponent.toNat = n * 10 ^ (-d.exponent).toNat

theorem isWhole_of_nonneg {d : Decimal} (h : 0 ≤ d.exponent) : d.IsWhole (d.digits * 10 ^ d.exponent.toNat) := by
  rw [IsWhole, Int.toNat_of_nonpos (Int.neg_nonpos_of_nonneg h), pow_zero, Nat.mul_one]

/-- To drop zeros does not change what a decimal stands for. -/
theorem IsWhole.of_stripped {d : Decimal} {n : Nat} (k : Nat) (h : (d.stripped k).IsWhole n) : d.IsWhole n := by
  induction k generalizing d with
  | zero => exact h
  | succ k ih =>
    unfold stripped at h
    split at h
    next hzero =>
      have hdropped := ih h
      obtain ⟨digits, exponent⟩ := d
      have hdigits : digits = digits / 10 * 10 := by
        have := Nat.div_add_mod' digits 10
        dsimp only at hzero
        omega
      unfold IsWhole at hdropped ⊢
      dsimp only at hdropped ⊢
      cases exponent with
      | ofNat e =>
        have hup : (Int.ofNat e + 1).toNat = e + 1 := rfl
        have hdown : (-(Int.ofNat e + 1)).toNat = 0 := by omega
        have hzero' : (-Int.ofNat e).toNat = 0 := by omega
        rw [hup, hdown, pow_succ', ← Nat.mul_assoc, ← hdigits] at hdropped
        rw [hzero', ← hdropped]
        rfl
      | negSucc e =>
        have hup : (Int.negSucc e + 1).toNat = 0 := by omega
        have hdown : (-(Int.negSucc e + 1)).toNat = e := by omega
        have hzero' : (Int.negSucc e).toNat = 0 := rfl
        have hneg : (-Int.negSucc e).toNat = e + 1 := rfl
        rw [hup, hdown, pow_zero, Nat.mul_one] at hdropped
        rw [hzero', hneg, pow_zero, Nat.mul_one, pow_succ, ← Nat.mul_assoc, ← hdropped]
        exact hdigits
    next => exact h

end Decimal

variable {x : Binary64}

theorem one_pos : 0 < one :=
  twoTo_pos 1074

theorem digitCount_le_iff {n k : Nat} (hk : 0 < k) : digitCount n ≤ k ↔ n < tenTo k :=
  Nat.length_toDigits_le_iff (by decide) hk

/-- The step of the significand of a number with a fraction divides one. -/
theorem exists_one_eq (h : x.units % one ≠ 0) : x.scale < 1074 ∧ ∃ c, one = twoTo x.scale * c := by
  have hscale : x.scale < 1074 := by
    by_contra hge
    exact h (Nat.mod_eq_zero_of_dvd (Nat.dvd_mul_left_of_dvd (twoTo_dvd (Nat.not_lt.1 hge)) _))
  exact ⟨hscale, twoTo_dvd (Nat.le_of_lt hscale)⟩

/-- No whole number rounds to a number with a fraction. -/
theorem not_isWhole_of_has {d : Decimal} (h : x.units % one ≠ 0) (hd : x.interval.has x.scale d = true) (n : Nat) :
    ¬ d.IsWhole n := by
  intro hwhole
  obtain ⟨-, c, hone⟩ := exists_one_eq h
  have hstep : 0 < twoTo x.scale * tenTo (-d.exponent).toNat := Nat.mul_pos (twoTo_pos _) (tenTo_pos _)
  have hvalue : d.digits * tenTo d.exponent.toNat * (4 * one) =
      4 * (n * c) * (twoTo x.scale * tenTo (-d.exponent).toNat) := by
    rw [tenTo_eq, hwhole, hone, tenTo_eq]
    ring
  have hends : x.interval.low * (twoTo x.scale * tenTo (-d.exponent).toNat) ≤
        4 * (n * c) * (twoTo x.scale * tenTo (-d.exponent).toNat) ∧
      4 * (n * c) * (twoTo x.scale * tenTo (-d.exponent).toNat) ≤
        x.interval.high * (twoTo x.scale * tenTo (-d.exponent).toNat) := by
    rw [← hvalue]
    unfold Interval.has at hd
    split at hd
    · simpa only [Bool.and_eq_true, decide_eq_true_eq] using hd
    · simp only [Bool.and_eq_true, decide_eq_true_eq] at hd
      exact ⟨Nat.le_of_lt hd.1, Nat.le_of_lt hd.2⟩
  have hlow := Nat.le_of_mul_le_mul_right hends.1 hstep
  have hhigh := Nat.le_of_mul_le_mul_right hends.2 hstep
  -- so the whole number is the significand in its steps, and the number is that whole number
  have hsignificand : n * c = x.significand := by
    unfold interval at hlow hhigh
    dsimp only at hlow hhigh
    split at hlow <;> omega
  refine h (Nat.mod_eq_zero_of_dvd ⟨n, ?_⟩)
  rw [units, ← hsignificand, hone]
  ring

/-- What withDigits finds rounds to the number. -/
theorem has_of_withDigits? {tie : Tie} {count : Nat} {d : Decimal} (h : x.withDigits? tie count = some d) :
    x.interval.has x.scale d = true := by
  unfold withDigits? at h
  dsimp only at h
  split at h
  next hl hu =>
    rw [← Option.some.inj h]
    split
    · exact hl
    · exact hu
  next hl _ => exact Option.some.inj h ▸ hl
  next hu => exact Option.some.inj h ▸ hu
  next => cases h

theorem shortestFrom_cases (x : Binary64) (tie : Tie) (n count : Nat) :
    x.interval.has x.scale (shortestFrom x tie n count) = true ∨
      shortestFrom x tie n count = (x.neighbours (x.leadingPower + 1 - (count + n : Nat))).1 := by
  induction n generalizing count with
  | zero => exact Or.inr rfl
  | succ n ih =>
    unfold shortestFrom
    split
    next d hd => exact Or.inl (has_of_withDigits? hd)
    next =>
      rw [Nat.add_comm n 1, ← Nat.add_assoc]
      exact ih (count + 1)

theorem significand_lt (x : Binary64) : x.significand < twoTo 53 := by
  have hfraction : x.fraction < twoTo 52 := Nat.mod_lt _ (twoTo_pos 52)
  have hdouble : twoTo 53 = 2 * twoTo 52 := rfl
  unfold significand
  split <;> omega

/-- A number with a fraction has at most sixteen digits before the point, and is at least as large as its first
significant digit says. -/
theorem exists_leadingPower_eq (h : x.units % one ≠ 0) : ∃ count : Nat, x.leadingPower = (count : Int) - 331 ∧
    0 < count ∧ count ≤ 346 ∧ tenTo (count - 1) * one ≤ x.units * tenTo 330 := by
  obtain ⟨hscale, -⟩ := exists_one_eq h
  have htwice : twoTo x.scale * 2 ≤ one := Nat.le_of_dvd one_pos (twoTo_dvd (a := x.scale + 1) hscale)
  refine ⟨digitCount (x.units * tenTo 330 / one), rfl, Nat.length_toDigits_pos, ?_, ?_⟩
  · refine (digitCount_le_iff (by decide)).2 ((Nat.div_lt_iff_lt_mul one_pos).2 ?_)
    have hsmall : x.units < tenTo 16 * one := by
      calc x.units < twoTo 53 * twoTo x.scale := Nat.mul_lt_mul_of_pos_right x.significand_lt (twoTo_pos _)
        _ = twoTo 52 * (twoTo x.scale * 2) := by
          rw [show twoTo 53 = twoTo 52 * 2 from rfl]
          ring
        _ ≤ tenTo 16 * one := Nat.mul_le_mul (by decide) htwice
    calc x.units * tenTo 330 < tenTo 16 * one * tenTo 330 := Nat.mul_lt_mul_of_pos_right hsmall (tenTo_pos 330)
      _ = tenTo 346 * one := by
        rw [show (346 : Nat) = 16 + 330 from rfl, tenTo_add]
        ring
  · refine Nat.le_trans (Nat.mul_le_mul_right one ?_) (Nat.div_mul_le_self _ _)
    generalize hcount : digitCount (x.units * tenTo 330 / one) - 1 = before
    cases before with
    | zero =>
      -- the smallest step is large enough for a digit
      have hunits : 1 ≤ x.units := Nat.pos_of_ne_zero fun hz => h (by rw [hz, Nat.zero_mod])
      have hlarge : one ≤ tenTo 330 := by decide +kernel
      rw [show tenTo 0 = 1 from rfl, Nat.le_div_iff_mul_le one_pos]
      exact Nat.mul_le_mul hunits hlarge
    | succ before =>
      refine Nat.not_lt.1 (mt (digitCount_le_iff (Nat.succ_pos before)).2 ?_)
      omega

/-- Eighteen digits of a number with a fraction are no whole number. -/
theorem not_isWhole_neighbour (h : x.units % one ≠ 0) (n : Nat) :
    ¬ (x.neighbours (x.leadingPower + 1 - (18 : Nat))).1.IsWhole n := by
  intro hwhole
  obtain ⟨-, c, hone⟩ := exists_one_eq h
  obtain ⟨count, hpower, hpos, hmost, hleast⟩ := exists_leadingPower_eq h
  obtain ⟨places, hplaces⟩ : ∃ places, count + places = 348 := ⟨348 - count, by omega⟩
  have hup : (x.leadingPower + 1 - (18 : Nat)).toNat = 0 := by omega
  have hdown : (-(x.leadingPower + 1 - (18 : Nat))).toNat = places := by omega
  simp only [Decimal.IsWhole, neighbours, hup, hdown, ← tenTo_eq, show tenTo 0 = 1 from rfl, Nat.mul_one] at hwhole
  -- the whole number is below the number by less than the last digit
  have hbelow : n * one ≤ x.units := by
    have hfloor := Nat.div_mul_le_self (x.units * tenTo places) one
    rw [hwhole, Nat.mul_right_comm] at hfloor
    exact Nat.le_of_mul_le_mul_right hfloor (tenTo_pos places)
  have habove : x.units * tenTo places < (n * tenTo places + 1) * one := by
    rw [← Nat.div_lt_iff_lt_mul one_pos, hwhole]
    exact Nat.lt_succ_self _
  -- and by at least a step of the significand, so the last digit is more than such a step
  have hstep : n * one + twoTo x.scale ≤ x.units := by
    have hsignificand : n * c < x.significand := by
      refine Nat.lt_of_le_of_ne (Nat.le_of_mul_le_mul_right ?_ (twoTo_pos x.scale)) fun he => ?_
      · calc n * c * twoTo x.scale = n * one := by rw [hone]; ring
          _ ≤ x.units := hbelow
      · refine h (Nat.mod_eq_zero_of_dvd ⟨n, ?_⟩)
        rw [units, ← he, hone]
        ring
    calc n * one + twoTo x.scale = (n * c + 1) * twoTo x.scale := by rw [hone]; ring
      _ ≤ x.units := Nat.mul_le_mul_right _ hsignificand
  have hdigit : twoTo x.scale * tenTo places < one := by
    have := Nat.mul_le_mul_right (tenTo places) hstep
    have hsplit : (n * one + twoTo x.scale) * tenTo places = n * tenTo places * one + twoTo x.scale * tenTo places := by
      ring
    rw [Nat.add_mul, Nat.one_mul] at habove
    omega
  -- but there are seventeen digits before it, more than the significand has
  have hlarge : tenTo 17 * one ≤ x.units * tenTo places := by
    refine Nat.le_of_mul_le_mul_right ?_ (tenTo_pos 330)
    have hpowers : tenTo (count - 1) * tenTo places = tenTo 17 * tenTo 330 := by
      rw [← tenTo_add, ← tenTo_add]
      exact congrArg tenTo (by omega)
    calc tenTo 17 * one * tenTo 330 = tenTo (count - 1) * one * tenTo places := by
          rw [Nat.mul_right_comm, ← hpowers]; ring
      _ ≤ x.units * tenTo 330 * tenTo places := Nat.mul_le_mul_right _ hleast
      _ = x.units * tenTo places * tenTo 330 := by ring
  have hsmall : x.units * tenTo places ≤ twoTo 53 * one := by
    calc x.units * tenTo places ≤ twoTo 53 * twoTo x.scale * tenTo places :=
          Nat.mul_le_mul_right _ (Nat.mul_le_mul_right _ (Nat.le_of_lt x.significand_lt))
      _ = twoTo 53 * (twoTo x.scale * tenTo places) := by ring
      _ ≤ twoTo 53 * one := Nat.mul_le_mul_left _ (Nat.le_of_lt hdigit)
  have hcompare := Nat.le_of_mul_le_mul_right (Nat.le_trans hlarge hsmall) one_pos
  exact absurd hcompare (by decide)

/-- The shortest decimal of a number with a fraction has decimal places. -/
theorem exponent_shortest_neg (h : x.units % one ≠ 0) (tie : Tie) : (x.shortest tie).exponent < 0 := by
  by_contra hexponent
  have hwhole := Decimal.isWhole_of_nonneg (Int.not_lt.1 hexponent)
  unfold shortest at hwhole
  split at hwhole
  next hzero => exact h (by rw [of_decide_eq_true hzero, Nat.zero_mod])
  next =>
    have htried := hwhole.of_stripped 20
    rcases shortestFrom_cases x tie 17 1 with hhas | hneighbour
    · exact not_isWhole_of_has h hhas _ htried
    · rw [hneighbour] at htried
      exact not_isWhole_neighbour h _ htried

/-- The text of what is no whole number is no numeral of an integer. -/
theorem plainText_ne_int64Text (h : x.isIntegral = false) (n : Int64) : x.plainText ≠ Numeral.int64Text n := by
  intro htext
  have hno : ∀ c ∈ x.plainText.toList, c = '-' ∨ c.isDigit = true := fun c hc => Numeral.mem_int64Text (htext ▸ hc)
  rw [isIntegral] at h
  cases hfinite : x.isFinite with
  | false =>
    rcases letter_mem_plainText hfinite with hletter | hletter
    · exact absurd (hno _ hletter) (by decide)
    · exact absurd (hno _ hletter) (by decide)
  | true =>
    rw [hfinite, Bool.true_and, decide_eq_false_iff_not] at h
    exact absurd (hno _ (point_mem_plainText hfinite (exponent_shortest_neg h .away))) (by decide)

end Binary64

end DataModel

import DataModel.Binary64.Rounding
import Mathlib.Data.Nat.Log

/-!
# Integers as binary64 numbers

A whole number of smallest steps is rounded by cutting it down to fifty-three binary places and rounding what is cut
off. The word that is made of this has the rounded number of steps as its magnitude, also where rounding up reaches the
next power of two and the exponent grows by itself. So rounding keeps the order of integers, though not that they
differ, and up to the fifty-third power of two it changes none.
-/

namespace DataModel

namespace Binary64

/-! ## Rounding to a whole number -/

theorem div_le_roundHalfEven (num den : Nat) : num / den ≤ roundHalfEven num den := by
  unfold roundHalfEven
  dsimp only
  split
  · exact Nat.le_refl _
  split
  · exact Nat.le_succ _
  split
  · exact Nat.le_refl _
  · exact Nat.le_succ _

theorem roundHalfEven_le (num den : Nat) : roundHalfEven num den ≤ num / den + 1 := by
  unfold roundHalfEven
  dsimp only
  split
  · exact Nat.le_succ _
  split
  · exact Nat.le_refl _
  split
  · exact Nat.le_succ _
  · exact Nat.le_refl _

theorem roundHalfEven_mono {num num' den : Nat} (h : num ≤ num') : roundHalfEven num den ≤ roundHalfEven num' den := by
  rcases Nat.lt_or_eq_of_le (Nat.div_le_div_right (c := den) h) with hlt | heq
  · exact Nat.le_trans (roundHalfEven_le num den) (Nat.le_trans hlt (div_le_roundHalfEven num' den))
  · -- with the same quotient the remainder decides
    have hrest : num % den ≤ num' % den := by
      have hsplit := Nat.div_add_mod num den
      have hsplit' := Nat.div_add_mod num' den
      rw [heq] at hsplit
      omega
    unfold roundHalfEven
    dsimp only
    rw [heq]
    split
    · exact div_le_roundHalfEven num' den
    · rw [if_neg (by omega : ¬2 * (num' % den) < den)]
      split
      next hup => rw [if_pos (by omega : den < 2 * (num' % den))]
      next =>
        split
        · split
          · exact Nat.le_succ _
          · exact Nat.le_refl _
        · split <;> exact Nat.le_refl _

/-! ## Rounding to fifty-three places -/

/-- How many binary places of a number of steps are beyond the fifty-third. -/
def cut (steps : Nat) : Nat :=
  steps.log2 - 52

/-- A number of steps rounded to fifty-three binary places. -/
def rounded (steps : Nat) : Nat :=
  roundHalfEven steps (twoTo (cut steps)) * twoTo (cut steps)

/-- What is left is not above the next power of two. -/
theorem roundHalfEven_cut_le (steps : Nat) : roundHalfEven steps (twoTo (cut steps)) ≤ twoTo 53 := by
  refine Nat.le_trans (roundHalfEven_le _ _) (Nat.succ_le_of_lt ?_)
  rw [Nat.div_lt_iff_lt_mul (twoTo_pos _), ← twoTo_add]
  have hplaces : steps.log2 + 1 ≤ 53 + cut steps := by
    unfold cut
    omega
  exact Nat.lt_of_lt_of_le Nat.lt_log2_self (twoTo_mono hplaces)

/-- Where something is cut off, fifty-three places are left. -/
theorem le_roundHalfEven_cut {steps : Nat} (h : cut steps ≠ 0) :
    twoTo 52 ≤ roundHalfEven steps (twoTo (cut steps)) := by
  refine Nat.le_trans ?_ (div_le_roundHalfEven _ _)
  have hplaces : 52 + cut steps = steps.log2 := by
    unfold cut at h ⊢
    omega
  have hsteps : steps ≠ 0 := by
    rintro rfl
    exact h rfl
  rw [Nat.le_div_iff_mul_le (twoTo_pos _), ← twoTo_add, hplaces]
  exact Nat.log2_self_le hsteps

theorem cut_mono {steps steps' : Nat} (h : steps ≤ steps') : cut steps ≤ cut steps' := by
  unfold cut
  rw [Nat.log2_eq_log_two, Nat.log2_eq_log_two]
  exact Nat.sub_le_sub_right (Nat.log_mono_right h) 52

/-- Rounding keeps the order. -/
theorem rounded_mono {steps steps' : Nat} (h : steps ≤ steps') : rounded steps ≤ rounded steps' := by
  unfold rounded
  rcases Nat.lt_or_eq_of_le (cut_mono h) with hlt | heq
  · -- the greatest number before the next place is cut is not above the least one after that
    calc roundHalfEven steps (twoTo (cut steps)) * twoTo (cut steps)
        ≤ twoTo 53 * twoTo (cut steps) := Nat.mul_le_mul_right _ (roundHalfEven_cut_le steps)
      _ = twoTo 52 * twoTo (cut steps + 1) := by rw [← twoTo_add, ← twoTo_add, Nat.add_left_comm, Nat.add_comm]
      _ ≤ roundHalfEven steps' (twoTo (cut steps')) * twoTo (cut steps') :=
        Nat.mul_le_mul (le_roundHalfEven_cut (Nat.ne_of_gt (Nat.zero_lt_of_lt hlt))) (twoTo_mono hlt)
  · rw [heq]
    exact Nat.mul_le_mul_right _ (roundHalfEven_mono h)

/-- What has no places beyond the fifty-third is not changed. -/
theorem rounded_eq {steps : Nat} (h : twoTo (cut steps) ∣ steps) : rounded steps = steps := by
  rw [rounded, roundHalfEven_of_dvd (twoTo_pos _) h, Nat.div_mul_cancel h]

theorem log2_twoTo (n : Nat) : (twoTo n).log2 = n :=
  Nat.log2_two_pow

theorem log2_lt {n places : Nat} (hplaces : 0 < places) (h : n < twoTo places) : n.log2 < places := by
  by_cases hzero : n = 0
  · rw [hzero]
    exact hplaces
  · exact (Nat.log2_lt hzero).2 h

/-- A whole number up to the fifty-third power of two has no places beyond the fifty-third. -/
theorem twoTo_cut_dvd {n : Nat} (h : n ≤ twoTo 53) : twoTo (cut (n * one)) ∣ n * one := by
  rcases Nat.lt_or_eq_of_le h with hlt | rfl
  · have hsteps : n * one < twoTo (53 + 1074) := by
      rw [twoTo_add, ← one]
      exact Nat.mul_lt_mul_of_pos_right hlt (twoTo_pos 1074)
    have hcut : cut (n * one) ≤ 1074 := by
      have hlog := log2_lt (by decide) hsteps
      unfold cut
      omega
    have hone : twoTo (cut (n * one)) ∣ one := twoTo_dvd hcut
    exact Nat.dvd_trans hone (Nat.dvd_mul_left one n)
  · rw [one, ← twoTo_add, cut, log2_twoTo]
    exact twoTo_dvd (by decide)

/-! ## Words that are put together -/

theorem isNaN_of_isFinite {x : Binary64} (h : x.isFinite = true) : x.isNaN = false := by
  rw [isNaN, decide_eq_false_iff_not]
  exact fun hnan => of_decide_eq_true h hnan.1

section

variable {negative : Bool} {magnitude : Nat}

theorem toNat_ofMagnitude (h : magnitude ≤ infiniteMagnitude) :
    (ofMagnitude negative magnitude).bits.toNat = magnitude + if negative then twoTo 63 else 0 := by
  refine UInt64.toNat_ofNat_of_lt' ?_
  have hinfinite : infiniteMagnitude = 9218868437227405312 := rfl
  have hsign : twoTo 63 = 9223372036854775808 := rfl
  have hsize : UInt64.size = 18446744073709551616 := rfl
  split <;> omega

theorem negative_ofMagnitude (h : magnitude ≤ infiniteMagnitude) :
    (ofMagnitude negative magnitude).negative = negative := by
  have hinfinite : infiniteMagnitude = 9218868437227405312 := rfl
  have hsign : twoTo 63 = 9223372036854775808 := rfl
  rw [Binary64.negative, toNat_ofMagnitude h]
  cases negative with
  | false => exact decide_eq_false (by rw [if_neg Bool.false_ne_true]; omega)
  | true => exact decide_eq_true (by rw [if_pos rfl]; omega)

theorem exponentField_ofMagnitude (h : magnitude ≤ infiniteMagnitude) :
    (ofMagnitude negative magnitude).exponentField = magnitude / twoTo 52 := by
  have hinfinite : infiniteMagnitude = 9218868437227405312 := rfl
  have hsign : twoTo 63 = 9223372036854775808 := rfl
  have hfraction : twoTo 52 = 4503599627370496 := rfl
  have hexponent : twoTo 11 = 2048 := rfl
  rw [exponentField, toNat_ofMagnitude h, hsign, hfraction, hexponent]
  split <;> omega

theorem fraction_ofMagnitude (h : magnitude ≤ infiniteMagnitude) :
    (ofMagnitude negative magnitude).fraction = magnitude % twoTo 52 := by
  have hsign : twoTo 63 = 2048 * twoTo 52 := rfl
  rw [fraction, toNat_ofMagnitude h]
  split
  · rw [hsign, Nat.add_mul_mod_self_right]
  · rfl

/-- The magnitude of an exponent and a significand that are added up. The significand may have reached the next power
of two, and it may lack its leading one where nothing is cut off. -/
theorem units_ofMagnitude {places significand : Nat} (hlow : places ≠ 0 → twoTo 52 ≤ significand)
    (hhigh : significand ≤ twoTo 53) (h : places * twoTo 52 + significand ≤ infiniteMagnitude) :
    (ofMagnitude negative (places * twoTo 52 + significand)).units = significand * twoTo places := by
  have hfraction : twoTo 52 = 4503599627370496 := rfl
  have hdouble : twoTo 53 = 2 * 4503599627370496 := rfl
  rw [units, Binary64.significand, scale, exponentField_ofMagnitude h, fraction_ofMagnitude h]
  by_cases hsmall : significand < twoTo 52
  · obtain rfl : places = 0 := by
      by_contra hplaces
      exact Nat.not_le.2 hsmall (hlow hplaces)
    rw [Nat.zero_mul, Nat.zero_add, Nat.div_eq_of_lt hsmall, if_pos rfl, Nat.mod_eq_of_lt hsmall]
  by_cases hnext : significand = twoTo 53
  · have hexponent : (places * twoTo 52 + significand) / twoTo 52 = places + 2 := by rw [hfraction]; omega
    have hrest : (places * twoTo 52 + significand) % twoTo 52 = 0 := by rw [hfraction]; omega
    rw [hexponent, hrest, if_neg (Nat.succ_ne_zero _), Nat.add_zero, hnext, Nat.add_succ_sub_one, ← twoTo_add,
      ← twoTo_add]
    exact congrArg twoTo (by omega)
  · have hexponent : (places * twoTo 52 + significand) / twoTo 52 = places + 1 := by rw [hfraction]; omega
    have hrest : twoTo 52 + (places * twoTo 52 + significand) % twoTo 52 = significand := by rw [hfraction]; omega
    rw [hexponent, hrest, if_neg (Nat.succ_ne_zero _), Nat.add_succ_sub_one]
    rfl

end

/-! ## Integers -/

section

variable {n : Int}

/-- The magnitude of an integer is far below the infinite one. -/
theorem magnitude_lt (h : n.natAbs < twoTo 64) :
    cut (n.natAbs * one) * twoTo 52 + roundHalfEven (n.natAbs * one) (twoTo (cut (n.natAbs * one))) <
      infiniteMagnitude := by
  have hsteps : n.natAbs * one < twoTo (64 + 1074) := by
    rw [twoTo_add, ← one]
    exact Nat.mul_lt_mul_of_pos_right h (twoTo_pos 1074)
  have hcut : cut (n.natAbs * one) ≤ 1085 := by
    have hlog := log2_lt (by decide) hsteps
    unfold cut
    omega
  have hinfinite : infiniteMagnitude = 2047 * 4503599627370496 := rfl
  have hfraction : twoTo 52 = 4503599627370496 := rfl
  have hdouble : twoTo 53 = 2 * 4503599627370496 := rfl
  have hround := roundHalfEven_cut_le (n.natAbs * one)
  have := Nat.mul_le_mul_right (twoTo 52) hcut
  omega

theorem ofInt_eq (h : n.natAbs < twoTo 64) : ofInt n = ofMagnitude (n < 0) (cut (n.natAbs * one) * twoTo 52 +
    roundHalfEven (n.natAbs * one) (twoTo (cut (n.natAbs * one)))) := by
  have hsame : ofInt n = ofMagnitude (n < 0) (min (cut (n.natAbs * one / 1) * twoTo 52 +
    roundHalfEven (n.natAbs * one) (1 * twoTo (cut (n.natAbs * one / 1)))) infiniteMagnitude) := rfl
  rw [hsame, Nat.div_one, Nat.one_mul, Nat.min_eq_left (magnitude_lt h).le]

/-- A whole number of 64 bits, with a sign or without, is rounded to a finite number. -/
theorem isFinite_ofInt (h : n.natAbs < twoTo 64) : (ofInt n).isFinite = true := by
  rw [ofInt_eq h, isFinite, exponentField_ofMagnitude (magnitude_lt h).le, decide_eq_true_eq]
  exact Nat.ne_of_lt ((Nat.div_lt_iff_lt_mul (twoTo_pos 52)).2 (magnitude_lt h))

theorem lt_twoTo_of_le (h : n.natAbs ≤ twoTo 63) : n.natAbs < twoTo 64 :=
  Nat.lt_of_le_of_lt h (by decide)

theorem isNaN_ofInt (h : n.natAbs ≤ twoTo 63) : (ofInt n).isNaN = false :=
  isNaN_of_isFinite (isFinite_ofInt (lt_twoTo_of_le h))

theorem units_ofInt (h : n.natAbs ≤ twoTo 63) : (ofInt n).units = rounded (n.natAbs * one) := by
  rw [ofInt_eq (lt_twoTo_of_le h)]
  exact units_ofMagnitude le_roundHalfEven_cut (roundHalfEven_cut_le _) (magnitude_lt (lt_twoTo_of_le h)).le

theorem signedUnits_ofInt (h : n.natAbs ≤ twoTo 63) :
    (ofInt n).signedUnits = if n < 0 then -(rounded (n.natAbs * one) : Int) else rounded (n.natAbs * one) := by
  have hnegative : (ofInt n).negative = decide (n < 0) := by
    rw [ofInt_eq (lt_twoTo_of_le h)]
    exact negative_ofMagnitude (magnitude_lt (lt_twoTo_of_le h)).le
  rw [signedUnits, hnegative, units_ofInt h]
  simp only [decide_eq_true_eq]
  rfl

/-- Rounding keeps the order of integers. -/
theorem signedUnits_ofInt_mono {m : Int} (hm : m.natAbs ≤ twoTo 63) (hn : n.natAbs ≤ twoTo 63) (h : m ≤ n) :
    (ofInt m).signedUnits ≤ (ofInt n).signedUnits := by
  have hmono : ∀ a b : Nat, a ≤ b → (rounded (a * one) : Int) ≤ rounded (b * one) := fun a b hab =>
    Int.ofNat_le.2 (rounded_mono (Nat.mul_le_mul_right one hab))
  rw [signedUnits_ofInt hm, signedUnits_ofInt hn]
  split
  next hneg =>
    split
    · exact Int.neg_le_neg (hmono _ _ (by omega))
    · exact Int.le_trans (Int.neg_nonpos_of_nonneg (Int.natCast_nonneg _)) (Int.natCast_nonneg _)
  next hpos =>
    rw [if_neg (by omega : ¬n < 0)]
    exact hmono _ _ (by omega)

/-- Up to the fifty-third power of two an integer is the number that it is rounded to. -/
theorem signedUnits_ofInt_eq (h : n.natAbs ≤ twoTo 53) : (ofInt n).signedUnits = n * one := by
  rw [signedUnits_ofInt (Nat.le_trans h (by decide)), rounded_eq (twoTo_cut_dvd h)]
  split
  next hneg =>
    rw [Int.natCast_mul, ← Int.neg_mul]
    exact congrArg (· * (one : Int)) (by omega)
  next hpos =>
    rw [Int.natCast_mul]
    exact congrArg (· * (one : Int)) (by omega)

end

end Binary64

end DataModel

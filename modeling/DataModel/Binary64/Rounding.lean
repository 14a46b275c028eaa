import DataModel.Binary64

/-!
# Rounding to binary64

The binary64 number nearest to a ratio of whole numbers; of two equally near the one whose
significand is even; beyond the largest finite number the infinity. Products, quotients and
conversions of whole numbers are exact ratios rounded once.
-/

namespace DataModel.Binary64

/-- The whole number nearest to `num / den`; a half goes to the even neighbour. -/
def roundHalfEven (num den : Nat) : Nat :=
  let q := num / den
  let r := num % den
  if 2 * r < den then q
  else if den < 2 * r then q + 1
  else if q % 2 = 0 then q
  else q + 1

/-- The binary64 number nearest to `num / den` under the given sign. -/
def ofRatio (negative : Bool) (num den : Nat) : Binary64 :=
  let steps := num * one
  let shift := (steps / den).log2 - 52
  let magnitude := shift * twoTo 52 + roundHalfEven steps (den * twoTo shift)
  ofMagnitude negative (min magnitude infiniteMagnitude)

/-- The binary64 number nearest to a natural number. -/
def ofNat (n : Nat) : Binary64 :=
  ofRatio false n 1

/-- The binary64 number nearest to an integer. -/
def ofInt (n : Int) : Binary64 :=
  ofRatio (n < 0) n.natAbs 1

/-- The product of two finite numbers. -/
def times (x y : Binary64) : Binary64 :=
  ofRatio (x.negative != y.negative) (x.units * y.units) (one * one)

/-- The quotient of two finite numbers, the second not zero. -/
def dividedBy (x y : Binary64) : Binary64 :=
  ofRatio (x.negative != y.negative) x.units y.units

theorem roundHalfEven_of_dvd {num den : Nat} (hd : 0 < den) (h : den ∣ num) :
    roundHalfEven num den = num / den := by
  have hr : num % den = 0 := Nat.mod_eq_zero_of_dvd h
  simp [roundHalfEven, hr, hd]

end DataModel.Binary64

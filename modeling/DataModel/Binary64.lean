import DataModel.Power

/-!
# Binary64 numbers

The 64-bit binary floating-point format as plain words: a sign, eleven bits of exponent and
fifty-two bits of fraction. A finite word is read exactly, as a whole number of the format's
smallest steps, so everything about it is integer arithmetic.
-/

namespace DataModel

/-- A binary64 word. -/
structure Binary64 where
  bits : UInt64
deriving DecidableEq, Repr

namespace Binary64

/-- The sign bit. -/
def negative (x : Binary64) : Bool :=
  twoTo 63 ≤ x.bits.toNat

/-- The biased exponent. -/
def exponentField (x : Binary64) : Nat :=
  x.bits.toNat / twoTo 52 % twoTo 11

/-- The fraction bits. -/
def fraction (x : Binary64) : Nat :=
  x.bits.toNat % twoTo 52

/-- Neither an infinity nor a NaN. -/
def isFinite (x : Binary64) : Bool :=
  x.exponentField ≠ 2047

/-- Not a number. -/
def isNaN (x : Binary64) : Bool :=
  x.exponentField = 2047 ∧ x.fraction ≠ 0

/-- The whole significand: the leading one is written only for an exponent field above zero. -/
def significand (x : Binary64) : Nat :=
  if x.exponentField = 0 then x.fraction else twoTo 52 + x.fraction

/-- How many binary places above the smallest step the significand stands. -/
def scale (x : Binary64) : Nat :=
  x.exponentField - 1

/-- The magnitude in steps of `2 ^ -1074`. An infinity lies above every finite magnitude. -/
def units (x : Binary64) : Nat :=
  x.significand * twoTo x.scale

/-- The value in steps of `2 ^ -1074`. -/
def signedUnits (x : Binary64) : Int :=
  if x.negative then -(Int.ofNat x.units) else Int.ofNat x.units

/-- Zero of either sign. -/
def isZero (x : Binary64) : Bool :=
  x.units = 0

/-- Comparison by value: both zeros are equal, infinities lie outside, a NaN compares with
nothing. -/
def order (x y : Binary64) : Option Ordering :=
  if x.isNaN || y.isNaN then none else some (compare x.signedUnits y.signedUnits)

/-- Equality by value. -/
def equals (x y : Binary64) : Bool :=
  x.order y = some .eq

/-- Strictly below by value. -/
def below (x y : Binary64) : Bool :=
  x.order y = some .lt

/-- The steps in one. -/
def one : Nat :=
  twoTo 1074

/-- A finite number without a fraction. -/
def isIntegral (x : Binary64) : Bool :=
  x.isFinite && x.units % one = 0

/-- The number without its fraction, held within the range of 64-bit integers; zero for a NaN. -/
def truncated (x : Binary64) : Int64 :=
  if x.isNaN then 0
  else
    let n := x.units / one
    if x.negative then Int64.ofInt (-(Int.ofNat (min n (twoTo 63))))
    else Int64.ofInt (Int.ofNat (min n (twoTo 63 - 1)))

/-- The word for a sign and the sixty-three bits below it. -/
def ofMagnitude (negative : Bool) (magnitude : Nat) : Binary64 :=
  ⟨UInt64.ofNat (magnitude + if negative then twoTo 63 else 0)⟩

/-- The bits of an infinite magnitude. -/
def infiniteMagnitude : Nat :=
  2047 * twoTo 52

/-- Positive zero. -/
def zero : Binary64 :=
  ofMagnitude false 0

/-- The same magnitude with the other sign. -/
def negated (x : Binary64) : Binary64 :=
  ⟨x.bits ^^^ 0x8000000000000000⟩

end Binary64

end DataModel

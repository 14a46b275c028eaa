import DataModel.Power

namespace DataModel.Pi

/-- Go on summing the series of an arc tangent: the power of the next term, its divisor, whether it is
subtracted, and the sum so far. -/
def arctanFrom (square : Nat) : Nat → Nat → Nat → Bool → Int → Int
  | 0, _, _, _, sum => sum
  | fuel + 1, power, divisor, minus, sum =>
    if power = 0 then sum
    else
      let term : Int := Int.ofNat (power / divisor)
      arctanFrom square fuel (power / square) (divisor + 2) (!minus) (if minus then sum - term else sum + term)

/-- The arc tangent of `1 / x` in units of `1 / one`. -/
def arctanInverse (x one : Nat) : Int :=
  arctanFrom (x * x) one.log2 (one / x) 1 false 0

/-- Bits that are computed and dropped, so that rounding does not reach the others. -/
def guardBits : Nat :=
  64

/-- The first `bits` binary digits of pi after the point, as a number. -/
def fraction (bits : Nat) : Nat :=
  let one := twoTo (bits + guardBits)
  let pi := 16 * arctanInverse 5 one - 4 * arctanInverse 239 one
  pi.toNat % one / twoTo guardBits

end DataModel.Pi

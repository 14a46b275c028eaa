/-! Octets as characters of six bits each. The digits are `.`, `/`, capital letters, small letters and decimal
digits, in this order; what is left over at the end is filled with zero bits, and a text with other bits there
is refused. -/

namespace DataModel.Radix64

/-- The character of a digit below 64. -/
def digitChar (d : Nat) : Char :=
  if d < 2 then Char.ofNat (46 + d)
  else if d < 28 then Char.ofNat (63 + d)
  else if d < 54 then Char.ofNat (69 + d)
  else Char.ofNat (d - 6)

/-- The digit of a character. -/
def digit? (c : Char) : Option Nat :=
  let n := c.toNat
  if n = 46 ∨ n = 47 then some (n - 46)
  else if 65 ≤ n ∧ n ≤ 90 then some (n - 63)
  else if 97 ≤ n ∧ n ≤ 122 then some (n - 69)
  else if 48 ≤ n ∧ n ≤ 57 then some (n + 6)
  else none

/-- The text of octets. -/
def encode : List UInt8 → List Char
  | [] => []
  | [a] =>
    let n := a.toNat * 16
    [digitChar (n / 64), digitChar (n % 64)]
  | [a, b] =>
    let n := (a.toNat * 256 + b.toNat) * 4
    [digitChar (n / 4096), digitChar (n / 64 % 64), digitChar (n % 64)]
  | a :: b :: c :: rest =>
    let n := (a.toNat * 256 + b.toNat) * 256 + c.toNat
    digitChar (n / 262144) :: digitChar (n / 4096 % 64) :: digitChar (n / 64 % 64) :: digitChar (n % 64) ::
      encode rest

/-- The octets of digits. -/
def ofDigits? : List Nat → Option (List UInt8)
  | [] => some []
  | [_] => none
  | [a, b] =>
    let n := a * 64 + b
    if n % 16 = 0 then some [UInt8.ofNat (n / 16)] else none
  | [a, b, c] =>
    let n := (a * 64 + b) * 64 + c
    if n % 4 = 0 then some [UInt8.ofNat (n / 1024), UInt8.ofNat (n / 4)] else none
  | a :: b :: c :: d :: rest =>
    let n := ((a * 64 + b) * 64 + c) * 64 + d
    (ofDigits? rest).map fun octets =>
      UInt8.ofNat (n / 65536) :: UInt8.ofNat (n / 256) :: UInt8.ofNat n :: octets

/-- The octets of a text. -/
def decode? (cs : List Char) : Option (List UInt8) := do
  ofDigits? (← cs.mapM digit?)

end DataModel.Radix64

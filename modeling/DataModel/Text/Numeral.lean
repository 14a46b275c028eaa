/-! Reading and writing whole numbers in base ten, and the values of hexadecimal digits. Reading is strict: at
least one digit, digits `0` to `9` only, an optional sign in front and nothing after. -/

namespace DataModel.Numeral

/-- The value of an ASCII digit. -/
def digit? (c : Char) : Option Nat :=
  if '0'.val ≤ c.val ∧ c.val ≤ '9'.val then some (c.toNat - 48) else none

/-- The digit that stands for `d`, for `d` below ten. -/
def digitChar (d : Nat) : Char :=
  Char.ofNat (48 + d)

/-- Continue reading digits from the number read so far. -/
def extend? (acc : Nat) : List Char → Option Nat
  | [] => some acc
  | c :: cs =>
    match digit? c with
    | some d => extend? (acc * 10 + d) cs
    | none => none

/-- The number a non-empty run of digits stands for. -/
def natural? : List Char → Option Nat
  | [] => none
  | cs => extend? 0 cs

/-- The value of a hexadecimal digit. -/
def hexDigit? (c : Char) : Option Nat :=
  let n := c.toNat
  if 48 ≤ n ∧ n ≤ 57 then some (n - 48)
  else if 97 ≤ n ∧ n ≤ 102 then some (n - 87)
  else if 65 ≤ n ∧ n ≤ 70 then some (n - 55)
  else none

/-- The digits of `n`, most significant first. -/
def ofNat (n : Nat) : List Char :=
  Nat.toDigits 10 n

/-- The digits of `n`, after a minus sign when it is negative. -/
def ofInt : Int → List Char
  | .ofNat n => ofNat n
  | .negSucc n => '-' :: ofNat (n + 1)

/-- The digits of `n` as text. -/
def natText (n : Nat) : String :=
  String.ofList (ofNat n)

/-- The numeral of `n` as text. -/
def intText (n : Int) : String :=
  String.ofList (ofInt n)

/-- A numeral below `bound`, with an optional plus sign. -/
def unsigned? (bound : Nat) (text : List Char) : Option Nat := do
  let n ← match text with
    | '+' :: cs => natural? cs
    | cs => natural? cs
  if n < bound then some n else none

/-- A numeral from `low` up to and including `high`, with an optional sign. -/
def signed? (low high : Int) (text : List Char) : Option Int := do
  let n ← match text with
    | '+' :: cs => (natural? cs).map Int.ofNat
    | '-' :: cs => (natural? cs).map fun n => -(Int.ofNat n)
    | cs => (natural? cs).map Int.ofNat
  if low ≤ n ∧ n ≤ high then some n else none

/-- A numeral in the range of 64-bit integers. -/
def int64? (text : String) : Option Int64 :=
  (signed? (-9223372036854775808) 9223372036854775807 text.toList).map Int64.ofInt

/-- The numeral of a 64-bit integer. -/
def int64Text (n : Int64) : String :=
  intText n.toInt

end DataModel.Numeral

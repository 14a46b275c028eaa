import DataModel.Binary64
import DataModel.Text.Numeral

/-!
# Shortest decimal text of a binary64 number

A finite number is written with the fewest significant digits that read back as the same number;
among those the nearest to it. The digits come from trying, for one digit, two digits and so on,
the two neighbours of the exact value on the decimal grid. Where both are equally near, a text says
which of them it takes.
-/

namespace DataModel.Binary64

/-- `digits` times ten to the power `exponent`. -/
structure Decimal where
  digits : Nat
  exponent : Int
deriving DecidableEq, Repr

/-- The numbers that round to a given one lie between `low` and `high`, in quarters of the step of
its significand; the ends belong to them when the significand is even. -/
structure Interval where
  low : Nat
  middle : Nat
  high : Nat
  closed : Bool

/-- The interval of a number, in quarters of the step `2 ^ (scale - 1074)`. Below a power of two
the neighbours are twice as dense. -/
def interval (x : Binary64) : Interval :=
  let m := 4 * x.significand
  let down := if x.fraction = 0 ∧ 1 < x.exponentField then 1 else 2
  ⟨m - down, m, m + 2, x.significand % 2 = 0⟩

/-- The number of decimal digits. -/
def digitCount (n : Nat) : Nat :=
  (Numeral.ofNat n).length

/-- The power of ten of the first significant digit. -/
def leadingPower (x : Binary64) : Int :=
  (digitCount (x.units * tenTo 330 / one) : Int) - 331

/-- Whether `digits * 10 ^ exponent` rounds to the number the interval belongs to. -/
def Interval.has (i : Interval) (scale : Nat) (d : Decimal) : Bool :=
  let lhs := d.digits * tenTo d.exponent.toNat * (4 * one)
  let unit := twoTo scale * tenTo (-d.exponent).toNat
  if i.closed then i.low * unit ≤ lhs && lhs ≤ i.high * unit
  else i.low * unit < lhs && lhs < i.high * unit

/-- The neighbours of the exact value on the grid of `10 ^ exponent`. -/
def neighbours (x : Binary64) (exponent : Int) : Decimal × Decimal :=
  let d := x.units * tenTo (-exponent).toNat / (one * tenTo exponent.toNat)
  (⟨d, exponent⟩, ⟨d + 1, exponent⟩)

/-- Which of two equally near decimals is taken. -/
inductive Tie where
  /-- The one further from zero. -/
  | away
  /-- The one whose last digit is even. -/
  | even
deriving DecidableEq, Repr

/-- Whether a tie above `digits` goes down. -/
def Tie.goesDown (tie : Tie) (digits : Nat) : Bool :=
  match tie with
  | away => false
  | even => digits % 2 = 0

/-- Whether the lower neighbour is taken: it is the nearer one, or neither is and the tie goes down. -/
def takesLower (x : Binary64) (tie : Tie) (d : Decimal) : Bool :=
  let value := 2 * (x.units * tenTo (-d.exponent).toNat)
  let half := (2 * d.digits + 1) * (one * tenTo d.exponent.toNat)
  value < half || (value = half && tie.goesDown d.digits)

/-- The decimal with `count` digits that reads back as `x`, if there is one; the nearer of two. -/
def withDigits? (x : Binary64) (tie : Tie) (count : Nat) : Option Decimal :=
  let (lower, upper) := x.neighbours (x.leadingPower + 1 - count)
  let i := x.interval
  match i.has x.scale lower, i.has x.scale upper with
  | true, true => some (if x.takesLower tie lower then lower else upper)
  | true, false => some lower
  | false, true => some upper
  | false, false => none

/-- Drop zeros at the end of the digits, at most `n` of them. -/
def Decimal.stripped : Nat → Decimal → Decimal
  | 0, d => d
  | n + 1, d => if d.digits % 10 = 0 then stripped n ⟨d.digits / 10, d.exponent + 1⟩ else d

/-- Try one digit after the other. Seventeen always suffice. -/
def shortestFrom (x : Binary64) (tie : Tie) : Nat → Nat → Decimal
  | 0, count => (x.neighbours (x.leadingPower + 1 - count)).1
  | n + 1, count =>
    match x.withDigits? tie count with
    | some d => d
    | none => shortestFrom x tie n (count + 1)

/-- The shortest decimal that reads back as the magnitude of a finite number. -/
def shortest (x : Binary64) (tie : Tie) : Decimal :=
  if x.isZero then ⟨0, 0⟩ else (shortestFrom x tie 17 1).stripped 20

private def zeros (n : Nat) : List Char :=
  List.replicate n '0'

/-- A point before the last `places` digits. -/
private def pointed (digits : List Char) (places : Nat) : List Char :=
  if digits.length ≤ places then '0' :: '.' :: (zeros (places - digits.length) ++ digits)
  else digits.take (digits.length - places) ++ '.' :: digits.drop (digits.length - places)

private def signed (x : Binary64) (digits : List Char) : String :=
  String.ofList (if x.negative then '-' :: digits else digits)

/-- Digits with a decimal point where there is a fraction; never an exponent. A tie goes away from
zero. -/
def plainText (x : Binary64) : String :=
  if x.isNaN then "NaN"
  else if !x.isFinite then signed x "inf".toList
  else
    let d := x.shortest .away
    let digits := Numeral.ofNat d.digits
    match d.exponent with
    | .ofNat e => signed x (digits ++ if d.digits = 0 then [] else zeros e)
    | .negSucc e => signed x (pointed digits (e + 1))

private theorem mem_signed {x : Binary64} {digits : List Char} {c : Char} (h : c ∈ digits) :
    c ∈ (signed x digits).toList := by
  rw [signed, String.toList_ofList]
  split
  · exact List.mem_cons_of_mem _ h
  · exact h

private theorem point_mem_pointed (digits : List Char) (places : Nat) : '.' ∈ pointed digits places := by
  unfold pointed
  split <;> simp

/-- The text of a number with decimal places has a point. -/
theorem point_mem_plainText {x : Binary64} (hx : x.isFinite = true) (h : (x.shortest .away).exponent < 0) :
    '.' ∈ x.plainText.toList := by
  have hnan : x.isNaN = false := by
    simp only [isFinite, ne_eq, decide_not, Bool.not_eq_true', decide_eq_false_iff_not] at hx
    simp [isNaN, hx]
  simp only [plainText, hnan, hx, Bool.false_eq_true, if_false, Bool.not_true]
  split
  next e he =>
    rw [he] at h
    exact absurd h (Int.not_lt.2 (Int.natCast_nonneg e))
  next e he => exact mem_signed (point_mem_pointed _ _)

/-- The text of what is no finite number has a letter. -/
theorem letter_mem_plainText {x : Binary64} (hx : x.isFinite = false) :
    'N' ∈ x.plainText.toList ∨ 'n' ∈ x.plainText.toList := by
  unfold plainText
  split
  · exact Or.inl (by decide)
  · rw [hx, Bool.not_false, if_pos rfl]
    exact Or.inr (mem_signed (by decide))

private theorem digits_of_mem_pointed {digits : List Char} (h : ∀ c ∈ digits, c.isDigit = true) (places : Nat) :
    ∀ c ∈ pointed digits places, c.isDigit = true ∨ c = '.' := by
  intro c hc
  unfold pointed at hc
  split at hc
  · simp only [List.mem_cons, List.mem_append, zeros, List.mem_replicate] at hc
    rcases hc with rfl | rfl | ⟨-, rfl⟩ | hc
    · exact Or.inl rfl
    · exact Or.inr rfl
    · exact Or.inl rfl
    · exact Or.inl (h c hc)
  · rcases List.mem_append.1 hc with hc | hc
    · exact Or.inl (h c (List.mem_of_mem_take hc))
    · rcases List.mem_cons.1 hc with rfl | hc
      · exact Or.inr rfl
      · exact Or.inl (h c (List.mem_of_mem_drop hc))

private theorem toList_signed (x : Binary64) (digits : List Char) :
    (signed x digits).toList = digits ∨ (signed x digits).toList = '-' :: digits := by
  rw [signed, String.toList_ofList]
  split
  · exact Or.inr rfl
  · exact Or.inl rfl

/-- The text of a number has letters, digits and a point, after a minus sign at most. -/
theorem toList_plainText (x : Binary64) : ∃ cs : List Char, cs ≠ [] ∧ (∀ c ∈ cs, c.isAlphanum = true ∨ c = '.') ∧
    (x.plainText.toList = cs ∨ x.plainText.toList = '-' :: cs) := by
  have hdigit : ∀ c : Char, c.isDigit = true → c.isAlphanum = true := by
    intro c hc
    rw [Char.isAlphanum, hc, Bool.or_true]
  unfold plainText
  split
  · have hletters : "NaN".toList.all Char.isAlphanum = true := by decide
    exact ⟨"NaN".toList, by decide, fun c hc => Or.inl (List.all_eq_true.1 hletters c hc), Or.inl rfl⟩
  split
  · have hletters : "inf".toList.all Char.isAlphanum = true := by decide
    exact ⟨"inf".toList, by decide, fun c hc => Or.inl (List.all_eq_true.1 hletters c hc), toList_signed x _⟩
  have hdigits : ∀ c ∈ Numeral.ofNat (x.shortest .away).digits, c.isDigit = true :=
    fun c hc => Nat.isDigit_of_mem_toDigits (by decide) (by decide) hc
  have hsome : Numeral.ofNat (x.shortest .away).digits ≠ [] := Nat.toDigits_ne_nil
  dsimp only
  split
  next e he =>
    refine ⟨_, List.append_ne_nil_of_left_ne_nil hsome _, fun c hc => ?_, toList_signed x _⟩
    rcases List.mem_append.1 hc with hc | hc
    · exact Or.inl (hdigit c (hdigits c hc))
    · split at hc
      · exact absurd hc List.not_mem_nil
      · rw [(List.mem_replicate.1 hc).2]
        exact Or.inl rfl
  next e he =>
    refine ⟨_, List.ne_nil_of_mem (point_mem_pointed _ _), fun c hc => ?_, toList_signed x _⟩
    exact (digits_of_mem_pointed hdigits _ c hc).imp_left (hdigit c)

/-- Zeros in front of the digits, none or more, and a point before the last `places` of them. -/
private theorem exists_pointed_eq (digits : List Char) {places : Nat} (h : 0 < places) :
    ∃ (more : Nat) (whole decimals : List Char), whole ++ decimals = List.replicate more '0' ++ digits ∧
      decimals.length = places ∧ pointed digits places = whole ++ '.' :: decimals := by
  unfold pointed
  split
  next hshort =>
    refine ⟨places - digits.length + 1, ['0'], zeros (places - digits.length) ++ digits, ?_, ?_, rfl⟩
    · rw [List.replicate_succ, zeros, List.singleton_append, List.cons_append]
    · rw [List.length_append, zeros, List.length_replicate]
      omega
  next hlong =>
    refine ⟨0, _, _, ?_, ?_, rfl⟩
    · rw [List.take_append_drop, List.replicate_zero, List.nil_append]
    · rw [List.length_drop]
      omega

/-- The text of a number with decimal places, taken apart at the point. -/
theorem exists_toList_plainText_eq {x : Binary64} (hx : x.isFinite = true) {places : Nat}
    (h : (x.shortest .away).exponent = .negSucc places) :
    ∃ (more : Nat) (whole decimals : List Char),
      whole ++ decimals = List.replicate more '0' ++ Numeral.ofNat (x.shortest .away).digits ∧
        decimals.length = places + 1 ∧
        x.plainText.toList = (if x.negative then ['-'] else []) ++ (whole ++ '.' :: decimals) := by
  have hnan : x.isNaN = false := by
    simp only [isFinite, ne_eq, decide_not, Bool.not_eq_true', decide_eq_false_iff_not] at hx
    simp [isNaN, hx]
  obtain ⟨more, whole, decimals, hdigits, hlength, htext⟩ :=
    exists_pointed_eq (Numeral.ofNat (x.shortest .away).digits) (Nat.succ_pos places)
  refine ⟨more, whole, decimals, hdigits, hlength, ?_⟩
  simp only [plainText, hnan, hx, Bool.false_eq_true, if_false, Bool.not_true, h]
  rw [signed, String.toList_ofList, htext]
  split <;> rfl

/-- Positional with a point from `1e-5` up to below `1e16`, else one digit, a fraction if there
are more, and an exponent with its sign. A tie goes to the even digit. Only for finite numbers. -/
def scientificText (x : Binary64) : String :=
  let d := x.shortest .even
  let digits := Numeral.ofNat d.digits
  let top : Int := digits.length + d.exponent
  if d.digits = 0 then signed x "0.0".toList
  else if -5 < top ∧ top ≤ 16 then
    match d.exponent with
    | .ofNat e => signed x (digits ++ zeros e ++ ".0".toList)
    | .negSucc e => signed x (pointed digits (e + 1))
  else
    let head := digits.take 1
    let tail := digits.drop 1
    let power := top - 1
    let mark := if power < 0 then [] else ['+']
    signed x (head ++ (if tail.isEmpty then [] else '.' :: tail) ++ 'e' :: (mark ++ Numeral.ofInt power))

end DataModel.Binary64

import DataModel.Text.Numeral
import Mathlib.Data.List.Basic

/-! The numeral of a 64-bit integer is read as that integer, so different integers have different numerals. A
numeral consists of digits, after a minus sign for negative integers. -/

namespace DataModel.Numeral

theorem digit?_of_isDigit {c : Char} (h : c.isDigit = true) : digit? c = some (c.toNat - '0'.toNat) := by
  simp only [Char.isDigit, Bool.and_eq_true, decide_eq_true_eq] at h
  rw [digit?, if_pos ⟨h.1, h.2⟩]
  rfl

theorem isDigit_of_mem_ofNat {n : Nat} {c : Char} (h : c ∈ ofNat n) : c.isDigit = true :=
  Nat.isDigit_of_mem_toDigits (by decide) (by decide) h

/-- Digits are read as the number they stand for. -/
theorem extend?_eq {cs : List Char} (h : ∀ c ∈ cs, c.isDigit = true) (acc : Nat) :
    extend? acc cs = some (Nat.ofDigitChars 10 cs acc) := by
  induction cs generalizing acc with
  | nil => rfl
  | cons c cs ih =>
    rw [List.forall_mem_cons] at h
    rw [extend?, digit?_of_isDigit h.1, Nat.ofDigitChars_cons, Nat.mul_comm 10]
    exact ih h.2 _

theorem natural?_ofNat (n : Nat) : natural? (ofNat n) = some n := by
  have hdigits : extend? 0 (ofNat n) = some n := by
    rw [extend?_eq (fun c => isDigit_of_mem_ofNat) 0, ofNat, Nat.ofDigitChars_ten_toDigits]
  cases hcs : ofNat n with
  | nil => exact absurd hcs Nat.toDigits_ne_nil
  | cons c cs =>
    rw [hcs] at hdigits
    exact hdigits

/-- An integer within the bounds is read back. -/
theorem signed?_ofInt {low high n : Int} (hlow : low ≤ n) (hhigh : n ≤ high) : signed? low high (ofInt n) = some n := by
  have hbounds : (if low ≤ n ∧ n ≤ high then some n else none) = some n := if_pos ⟨hlow, hhigh⟩
  cases n with
  | ofNat k =>
    -- the first character is a digit, so it is not taken for a sign
    have hread := natural?_ofNat k
    simp only [signed?, ofInt]
    split
    next cs hcs => exact absurd (isDigit_of_mem_ofNat (hcs ▸ List.mem_cons_self)) (by decide)
    next cs hcs => exact absurd (isDigit_of_mem_ofNat (hcs ▸ List.mem_cons_self)) (by decide)
    next =>
      rw [hread]
      exact hbounds
  | negSucc k =>
    simp only [signed?, ofInt, natural?_ofNat]
    exact hbounds

/-- A numeral is read as what it was written for. -/
theorem int64?_int64Text (n : Int64) : int64? (int64Text n) = some n := by
  have hread : signed? (-9223372036854775808) 9223372036854775807 (ofInt n.toInt) = some n.toInt :=
    signed?_ofInt n.le_toInt (Int.le_of_lt_add_one n.toInt_lt)
  rw [int64?, int64Text, intText, String.toList_ofList, hread, Option.map_some, Int64.ofInt_toInt]

/-- Different integers have different numerals. -/
theorem int64Text_injective {a b : Int64} (h : int64Text a = int64Text b) : a = b := by
  have hread := congrArg int64? h
  rw [int64?_int64Text, int64?_int64Text] at hread
  exact Option.some.inj hread

/-- The characters of a numeral are digits and a minus sign. -/
theorem mem_int64Text {n : Int64} {c : Char} (h : c ∈ (int64Text n).toList) : c = '-' ∨ c.isDigit = true := by
  rw [int64Text, intText, String.toList_ofList] at h
  cases hn : n.toInt with
  | ofNat m =>
    rw [hn] at h
    exact Or.inr (isDigit_of_mem_ofNat h)
  | negSucc m =>
    rw [hn, ofInt, List.mem_cons] at h
    exact h.imp id isDigit_of_mem_ofNat

end DataModel.Numeral

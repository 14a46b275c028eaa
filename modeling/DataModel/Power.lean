namespace DataModel

/-- Two to the power `n`, the number of words of `n` bits. -/
def twoTo (n : Nat) : Nat :=
  Nat.pow 2 n

/-- Ten to the power `n`, the number of numerals of `n` digits. -/
def tenTo (n : Nat) : Nat :=
  Nat.pow 10 n

theorem twoTo_pos (n : Nat) : 0 < twoTo n :=
  Nat.pow_pos (by decide)

theorem tenTo_pos (n : Nat) : 0 < tenTo n :=
  Nat.pow_pos (by decide)

theorem tenTo_add (a b : Nat) : tenTo (a + b) = tenTo a * tenTo b :=
  Nat.pow_add 10 a b

theorem twoTo_add (a b : Nat) : twoTo (a + b) = twoTo a * twoTo b :=
  Nat.pow_add 2 a b

theorem twoTo_mono {a b : Nat} (h : a ≤ b) : twoTo a ≤ twoTo b :=
  Nat.pow_le_pow_right (by decide) h

theorem twoTo_dvd {a b : Nat} (h : a ≤ b) : twoTo a ∣ twoTo b :=
  Nat.pow_dvd_pow 2 h

end DataModel

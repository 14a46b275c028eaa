import DataModel.Password.Hash
import DataModel.Proofs.Moment

/-! The hash of a password is a text of sixty characters, whatever the password is: version and cost between
marks, the salt, and what the cipher makes of its phrase. Its first character is a mark, so it is no UUID, and
there is no date or time in it. -/

namespace DataModel

theorem Radix64.length_encode (octets : List UInt8) : (encode octets).length = (4 * octets.length + 2) / 3 := by
  fun_induction encode octets with
  | case1 => rfl
  | case2 a n => simp only [List.length_cons, List.length_nil]
  | case3 a b n => simp only [List.length_cons, List.length_nil]
  | case4 a b c rest n ih =>
    simp only [List.length_cons, ih]
    omega

namespace PasswordHash

variable {cost : Nat} {salt : List UInt8} {password hash : String}

/-- The cipher keeps the number of words. -/
theorem length_encipherAll (b : Blowfish) (words : List UInt32) : (encipherAll b words).length = words.length := by
  fun_induction encipherAll b words with
  | case1 left right rest _ _ _ ih => simp only [List.length_cons, ih]
  | case2 => rfl

theorem length_repeat_encipherAll (b : Blowfish) (times : Nat) (words : List UInt32) :
    (Nat.repeat (encipherAll b) times words).length = words.length := by
  induction times with
  | zero => rfl
  | succ times ih => rw [Nat.repeat, length_encipherAll, ih]

theorem length_flatMap_octetsOf (words : List UInt32) : (words.flatMap octetsOf).length = 4 * words.length := by
  have hfour (w : UInt32) : (octetsOf w).length = 4 := rfl
  induction words with
  | nil => rfl
  | cons w words ih =>
    rw [List.flatMap_cons, List.length_append, hfour, ih, List.length_cons, Nat.mul_succ, Nat.add_comm]

theorem length_digest (cost : Nat) (salt : List UInt8) (password : String) :
    (digest cost salt password).length = digestLength := by
  have hphrase : phrase.length = 6 := by rw [phrase, List.length_map, List.length_range]
  rw [digest, List.length_take, length_flatMap_octetsOf, length_repeat_encipherAll, hphrase]
  rfl

/-- A cost that is allowed has two digits. -/
theorem length_costText (h : isCost cost = true) : (costText cost).length = 2 := by
  have htwo : ∀ n < 32, (costText n).length = 2 := by decide
  rw [isCost, Bool.and_eq_true] at h
  exact htwo cost (Nat.lt_succ_of_le (of_decide_eq_true h.2))

/-- How many characters the text of a hash has. -/
def textLength : Nat :=
  60

/-- A hash has the same length for all passwords and all costs. -/
theorem length_of_make? (hsalt : salt.length = saltLength) (h : make? cost salt password = some hash) :
    hash.length = textLength := by
  unfold make? at h
  split at h
  next hcost =>
    have hversion : "$2b$".length = 4 := by decide
    have hmark : "$".length = 1 := by decide
    rw [← Option.some.inj h, String.length_append, String.length_append, String.length_append, hversion, hmark,
      length_costText hcost, String.length_ofList, List.length_append, Radix64.length_encode, Radix64.length_encode,
      length_digest, hsalt, saltLength, digestLength, textLength]
  next => cases h

/-- There is a hash for every password when the cost is allowed. -/
theorem exists_make? (hcost : isCost cost = true) (salt : List UInt8) (password : String) :
    ∃ hash, make? cost salt password = some hash :=
  ⟨_, if_pos hcost⟩

/-- A hash begins with a mark. -/
theorem exists_of_make? (h : make? cost salt password = some hash) : ∃ rest, hash = String.ofList ('$' :: rest) := by
  unfold make? at h
  split at h
  next =>
    rw [← Option.some.inj h, ← String.ofList_toList (s := "$2b$" ++ costText cost ++ "$" ++ _)]
    simp only [String.toList_append]
    exact ⟨_, rfl⟩
  next => cases h

theorem isUuid_of_make? (h : make? cost salt password = some hash) : Uuid.isUuid hash = false := by
  obtain ⟨rest, rfl⟩ := exists_of_make? h
  exact Uuid.isUuid_eq_false List.mem_cons_self (by decide) (by decide) (by decide) (by decide)

theorem isDate_of_make? (h : make? cost salt password = some hash) : Calendar.isDate hash = false := by
  obtain ⟨rest, rfl⟩ := exists_of_make? h
  rw [Calendar.isDate, Calendar.takesAll, String.toList_ofList]
  rfl

theorem isTime_of_make? (h : make? cost salt password = some hash) : Calendar.isTime hash = false := by
  obtain ⟨rest, rfl⟩ := exists_of_make? h
  rw [Calendar.isTime, Calendar.takesAll, Calendar.takesAll, String.toList_ofList]
  rfl

theorem isMoment_of_make? (h : make? cost salt password = some hash) : Calendar.isMoment hash = false := by
  obtain ⟨rest, rfl⟩ := exists_of_make? h
  rw [Calendar.isMoment, Calendar.takesAll, Calendar.takesAll, Calendar.takesAll, String.toList_ofList]
  rfl

end PasswordHash

end DataModel

import DataModel.Proofs.Numeral
import DataModel.Validation
import Mathlib.Data.List.TakeWhile
import Mathlib.Tactic.IntervalCases

/-! The time of writing is the text of an instant in universal time: date and time with all their digits, possibly
a fraction of the second, and the offset of zero. It is read as a moment, and it is neither a date nor a time
nor a UUID. -/

namespace DataModel

namespace Numeral

/-- The last digits of a number, as many as are asked for. -/
def padded : Nat → Nat → List Char
  | 0, _ => []
  | width + 1, n => padded width (n / 10) ++ [digitChar (n % 10)]

theorem isDigit_digitChar {d : Nat} (h : d < 10) : (digitChar d).isDigit = true := by
  interval_cases d <;> decide

theorem length_padded (width n : Nat) : (padded width n).length = width := by
  induction width generalizing n with
  | zero => rfl
  | succ width ih => rw [padded, List.length_append, ih, List.length_singleton]

theorem isDigit_of_mem_padded {width n : Nat} {c : Char} (h : c ∈ padded width n) : c.isDigit = true := by
  induction width generalizing n with
  | zero => cases h
  | succ width ih =>
    rcases List.mem_append.1 h with h | h
    · exact ih h
    · rw [List.mem_singleton.1 h]
      exact isDigit_digitChar (Nat.mod_lt _ (by decide))

/-- The digits of a number stand for the number, when there are enough of them. -/
theorem ofDigitChars_padded {width n : Nat} (h : n < 10 ^ width) (acc : Nat) :
    Nat.ofDigitChars 10 (padded width n) acc = acc * 10 ^ width + n := by
  induction width generalizing n acc with
  | zero =>
    obtain rfl : n = 0 := by omega
    rw [padded, Nat.ofDigitChars_nil, Nat.pow_zero, Nat.mul_one, Nat.add_zero]
  | succ width ih =>
    have hdigit : ∀ d < 10, (digitChar d).toNat - '0'.toNat = d := by decide
    have hlast : n % 10 < 10 := Nat.mod_lt _ (by decide)
    rw [Nat.pow_succ] at h
    rw [padded, Nat.ofDigitChars_append, ih (Nat.div_lt_of_lt_mul (by omega)), Nat.ofDigitChars_cons,
      Nat.ofDigitChars_nil, hdigit _ hlast, Nat.mul_add, Nat.add_assoc, Nat.div_add_mod, Nat.pow_succ,
      Nat.mul_comm 10, Nat.mul_assoc]

/-- Digits stand for a number when there are any. -/
theorem natural?_eq {cs : List Char} (hne : cs ≠ []) (h : ∀ c ∈ cs, c.isDigit = true) :
    natural? cs = some (Nat.ofDigitChars 10 cs 0) := by
  cases cs with
  | nil => exact absurd rfl hne
  | cons c cs => exact extend?_eq h 0

end Numeral

namespace Segment

/-- Every character of a text stands in one of its pieces, but for the separator. -/
theorem mem_cut {sep c : Char} {cs : List Char} (h : c ∈ cs) : c = sep ∨ ∃ piece ∈ cut sep cs, c ∈ piece := by
  induction cs with
  | nil => cases h
  | cons d cs ih =>
    unfold cut
    split
    next hsep =>
      rcases List.mem_cons.1 h with rfl | h
      · exact Or.inl hsep
      · exact (ih h).imp_right fun ⟨piece, hpiece, hc⟩ => ⟨piece, List.mem_cons_of_mem _ hpiece, hc⟩
    next =>
      rcases List.mem_cons.1 h with rfl | h
      · split
        · exact Or.inr ⟨[c], List.mem_cons_self, List.mem_cons_self⟩
        · exact Or.inr ⟨_, List.mem_cons_self, List.mem_cons_self⟩
      · refine (ih h).imp_right fun ⟨piece, hpiece, hc⟩ => ?_
        split
        next hnil =>
          rw [hnil] at hpiece
          cases hpiece
        next first pieces hcut =>
          rw [hcut] at hpiece
          rcases List.mem_cons.1 hpiece with rfl | hpiece
          · exact ⟨_, List.mem_cons_self, List.mem_cons_of_mem _ hc⟩
          · exact ⟨piece, List.mem_cons_of_mem _ hpiece, hc⟩

end Segment

namespace Uuid

theorem isSome_hexDigit?_of_isHex {count : Nat} {cs : List Char} (h : isHex count cs = true) {c : Char} (hc : c ∈ cs) :
    (Numeral.hexDigit? c).isSome = true := by
  rw [isHex, Bool.and_eq_true] at h
  exact List.all_eq_true.1 h.2 c hc

/-- Between hyphens there are hexadecimal digits. -/
theorem isSome_hexDigit?_of_isHyphenated {cs : List Char} (h : isHyphenated cs = true) {c : Char} (hc : c ∈ cs)
    (hplain : c ≠ '-') : (Numeral.hexDigit? c).isSome = true := by
  obtain ⟨piece, hpiece, hin⟩ : ∃ piece ∈ Segment.cut '-' cs, c ∈ piece := (Segment.mem_cut hc).resolve_left hplain
  unfold isHyphenated at h
  split at h
  next a b c d e hcut =>
    simp only [Bool.and_eq_true] at h
    obtain ⟨⟨⟨⟨ha, hb⟩, hc⟩, hd⟩, he⟩ := h
    simp only [hcut, List.mem_cons, List.not_mem_nil, or_false] at hpiece
    rcases hpiece with rfl | rfl | rfl | rfl | rfl
    · exact isSome_hexDigit?_of_isHex ha hin
    · exact isSome_hexDigit?_of_isHex hb hin
    · exact isSome_hexDigit?_of_isHex hc hin
    · exact isSome_hexDigit?_of_isHex hd hin
    · exact isSome_hexDigit?_of_isHex he hin
  next => cases h

/-- A text with a character that is neither a hyphen nor a hexadecimal digit is no UUID, unless it begins as the forms
do that have other characters. -/
theorem isUuid_eq_false {first c : Char} {rest : List Char} (hc : c ∈ first :: rest) (hplain : c ≠ '-')
    (hdigit : Numeral.hexDigit? c = none) (hbrace : first ≠ '\x7b') (hname : first.toLower ≠ 'u') :
    isUuid (String.ofList (first :: rest)) = false := by
  have hstrange : ¬ (Numeral.hexDigit? c).isSome = true := by rw [hdigit]; exact Bool.false_ne_true
  have hhex : isHex 32 (first :: rest) = false :=
    Bool.eq_false_iff.2 fun h => hstrange (isSome_hexDigit?_of_isHex h hc)
  have hhyphenated : isHyphenated (first :: rest) = false :=
    Bool.eq_false_iff.2 fun h => hstrange (isSome_hexDigit?_of_isHyphenated h hc hplain)
  have hunbraced : unbraced? (first :: rest) = none := by
    unfold unbraced?
    split
    next h => exact absurd (List.cons.inj h).1 hbrace
    next => rfl
  have hunnamed : unnamed? (first :: rest) = none := by
    have hmark : "urn:uuid:".toList = 'u' :: "rn:uuid:".toList := rfl
    rw [unnamed?, hmark, if_neg]
    rw [List.length_cons, List.take_succ_cons, List.map_cons]
    exact fun h => hname (List.cons.inj h).1
  simp only [isUuid, String.toList_ofList, hhex, hhyphenated, hunbraced, hunnamed]
  rfl

end Uuid

namespace Calendar

variable {ds rest : List Char}

/-- Digits in front of a text are read, when there are as many as are allowed, or something else comes after them. -/
theorem digits?_append {least most : Nat} (hdigits : ∀ c ∈ ds, c.isDigit = true) (hne : ds ≠ [])
    (hleast : least ≤ ds.length) (hstop : ds.length = most ∨ ds.length ≤ most ∧ ∀ c ∈ rest.head?, c.isDigit = false) :
    digits? least most (ds ++ rest) = some (Nat.ofDigitChars 10 ds 0, rest) := by
  have hread : ((ds ++ rest).take most).takeWhile Char.isDigit = ds := by
    rcases hstop with rfl | ⟨hmost, hrest⟩
    · rw [List.take_left]
      exact List.takeWhile_eq_self_iff.2 hdigits
    · rw [List.take_append, List.take_of_length_le hmost, List.takeWhile_append_of_pos hdigits]
      cases rest with
      | nil => simp
      | cons c rest =>
        cases most - ds.length with
        | zero => simp
        | succ k => simp [hrest c rfl]
  simp only [digits?, hread, Nat.not_lt.2 hleast, if_false, Numeral.natural?_eq hne hdigits, List.drop_left,
    Option.map_some]

theorem padded_ne_nil {width n : Nat} (hwidth : 0 < width) : Numeral.padded width n ≠ [] := by
  rw [← List.length_pos_iff, Numeral.length_padded]
  exact hwidth

/-- What is written with a fixed number of digits is read back, and what stands behind it is left. -/
theorem digits?_padded {least width n : Nat} (hwidth : 0 < width) (hleast : least ≤ width) (h : n < 10 ^ width)
    (rest : List Char) : digits? least width (Numeral.padded width n ++ rest) = some (n, rest) := by
  rw [digits?_append (fun c => Numeral.isDigit_of_mem_padded) (padded_ne_nil hwidth)
    (by rwa [Numeral.length_padded]) (Or.inl (Numeral.length_padded _ _)), Numeral.ofDigitChars_padded h, Nat.zero_mul,
    Nat.zero_add]

theorem isBlank_of_isDigit {c : Char} (h : c.isDigit = true) : Blank.isBlank c = false := by
  simp only [Char.isDigit, Bool.and_eq_true, decide_eq_true_eq] at h
  have hlow : 48 ≤ c.toNat := h.1
  have hhigh : c.toNat ≤ 57 := h.2
  simp only [Blank.isBlank, Blank.ranges, List.any_cons, List.any_nil, Bool.or_eq_false_iff, Bool.and_eq_false_iff,
    decide_eq_false_iff_not, Nat.not_le, and_true]
  omega

/-- There is no white space to be dropped in front of digits. -/
theorem dropLeading_digits (hdigits : ∀ c ∈ ds, c.isDigit = true) (hne : ds ≠ []) (rest : List Char) :
    Blank.dropLeading (ds ++ rest) = ds ++ rest := by
  cases ds with
  | nil => exact absurd rfl hne
  | cons c ds =>
    rw [Blank.dropLeading, List.cons_append, List.dropWhile_cons, isBlank_of_isDigit (hdigits c List.mem_cons_self),
      if_neg Bool.false_ne_true]

theorem short?_padded {n : Nat} (h : n < 100) (rest : List Char) :
    short? (Numeral.padded 2 n ++ rest) = some (n, rest) := by
  rw [short?, dropLeading_digits (fun c => Numeral.isDigit_of_mem_padded) (padded_ne_nil (by decide)),
    digits?_padded (by decide) (by decide) h]

theorem year?_padded {n : Nat} (h : n < 10000) (rest : List Char) :
    year? (Numeral.padded 4 n ++ rest) = some ((n : Int), rest) := by
  have hread : digits? 1 4 (Numeral.padded 4 n ++ rest) = some (n, rest) := digits?_padded (by decide) (by decide) h rest
  have hne : Numeral.padded 4 n ≠ [] := padded_ne_nil (by decide)
  obtain ⟨c, cs, hcs⟩ := List.exists_cons_of_ne_nil hne
  have hc : c.isDigit = true := Numeral.isDigit_of_mem_padded (hcs ▸ List.mem_cons_self)
  rw [year?, dropLeading_digits (fun c => Numeral.isDigit_of_mem_padded) hne]
  -- the first character is a digit, so it is not taken for a sign
  split
  next heq =>
    rw [hcs] at heq
    rw [(List.cons.inj heq).1] at hc
    cases hc
  next heq =>
    rw [hcs] at heq
    rw [(List.cons.inj heq).1] at hc
    cases hc
  next =>
    rw [hread]
    rfl

theorem mark?_self (mark : Char) (rest : List Char) : mark? mark (mark :: rest) = some rest :=
  if_pos rfl

theorem mark?_of_ne {mark c : Char} (h : c ≠ mark) (rest : List Char) : mark? mark (c :: rest) = none :=
  if_neg h

theorem daysIn_le (year : Int) (month : Nat) : daysIn year month ≤ 31 := by
  unfold daysIn
  split <;> first | decide | (split <;> decide)

/-- Only a month has days. -/
theorem month_le_of_daysIn {year : Int} {month : Nat} (h : 0 < daysIn year month) : month ≤ 12 := by
  unfold daysIn at h
  split at h <;> omega

/-- An instant of the calendar in universal time, with a year of four digits. -/
structure Instant where
  year : Nat
  month : Nat
  day : Nat
  hour : Nat
  minute : Nat
  second : Nat
  fraction : List Char
  short : year < 10000
  date : isDateOf year month day = true
  time : isTimeOf hour minute second = true
  digits : ∀ c ∈ fraction, c.isDigit = true

namespace Instant

/-- The fraction of the second after a point, if there is one, and the offset. -/
def tail (i : Instant) : List Char :=
  (if i.fraction = [] then [] else '.' :: i.fraction) ++ "+00:00".toList

/-- The time of an instant, after the mark between date and time. -/
def clock (i : Instant) : List Char :=
  'T' :: (Numeral.padded 2 i.hour ++ ':' :: (Numeral.padded 2 i.minute ++ ':' :: (Numeral.padded 2 i.second ++ i.tail)))

/-- The text of an instant, such as `2024-02-29T23:59:59.25+00:00`. -/
def text (i : Instant) : String :=
  String.ofList (Numeral.padded 4 i.year ++ '-' :: (Numeral.padded 2 i.month ++ '-' ::
    (Numeral.padded 2 i.day ++ i.clock)))

theorem bounds (i : Instant) :
    i.month < 100 ∧ i.day < 100 ∧ i.hour < 100 ∧ i.minute < 100 ∧ i.second < 100 := by
  have hdate := i.date
  have htime := i.time
  simp only [isDateOf, isTimeOf, Bool.and_eq_true, decide_eq_true_eq] at hdate htime
  have hdays := daysIn_le i.year i.month
  have hsome : 0 < daysIn i.year i.month := by omega
  have hmonth := month_le_of_daysIn hsome
  omega

theorem fraction?_tail (i : Instant) : fraction? i.tail = some "+00:00".toList := by
  rw [tail]
  by_cases hnone : i.fraction = []
  · rw [if_pos hnone]
    rfl
  · rw [if_neg hnone, List.cons_append, fraction?, digits?_append i.digits hnone]
    · rfl
    · exact List.length_pos_iff.2 hnone
    · refine Or.inr ⟨?_, ?_⟩
      · rw [List.length_append]
        exact Nat.le_add_right _ _
      · rintro c ⟨⟩
        rfl

/-- The text of an instant is read as a moment. -/
theorem isMoment_text (i : Instant) : isMoment i.text = true := by
  obtain ⟨hmonth, hday, hhour, hminute, hsecond⟩ := i.bounds
  have htwo : ∀ n < 100, ∀ rest, digits? 2 2 (Numeral.padded 2 n ++ rest) = some (n, rest) :=
    fun n hn rest => digits?_padded (by decide) (by decide) hn rest
  have hyear : ∀ rest, digits? 4 4 (Numeral.padded 4 i.year ++ rest) = some (i.year, rest) :=
    fun rest => digits?_padded (by decide) (by decide) i.short rest
  have hoffset : offset? "+00:00".toList = some [] := by decide
  have hclock : (mark? 'T' i.clock <|> mark? 't' i.clock <|> mark? ' ' i.clock) = some i.clock.tail := rfl
  have hread : offsetMoment? (Numeral.padded 4 i.year ++ '-' :: (Numeral.padded 2 i.month ++ '-' ::
      (Numeral.padded 2 i.day ++ i.clock))) = some [] := by
    -- the parts are read one after the other, as far as the offset
    refine Option.bind_eq_some_iff.2 ⟨_, hyear _, Option.bind_eq_some_iff.2 ⟨_, mark?_self _ _, ?_⟩⟩
    refine Option.bind_eq_some_iff.2 ⟨_, htwo _ hmonth _, Option.bind_eq_some_iff.2 ⟨_, mark?_self _ _, ?_⟩⟩
    refine Option.bind_eq_some_iff.2 ⟨_, htwo _ hday _, Option.bind_eq_some_iff.2 ⟨_, hclock, ?_⟩⟩
    refine Option.bind_eq_some_iff.2 ⟨_, htwo _ hhour _, Option.bind_eq_some_iff.2 ⟨_, mark?_self _ _, ?_⟩⟩
    refine Option.bind_eq_some_iff.2 ⟨_, htwo _ hminute _, Option.bind_eq_some_iff.2 ⟨_, mark?_self _ _, ?_⟩⟩
    refine Option.bind_eq_some_iff.2 ⟨_, htwo _ hsecond _, Option.bind_eq_some_iff.2 ⟨_, i.fraction?_tail, ?_⟩⟩
    exact Option.bind_eq_some_iff.2 ⟨_, hoffset, if_pos ⟨i.date, i.time⟩⟩
  rw [isMoment, takesAll, text, String.toList_ofList, hread]
  rfl

/-- Behind the date of an instant there is its time, so its text is no date. -/
theorem isDate_text (i : Instant) : isDate i.text = false := by
  obtain ⟨hmonth, hday, -⟩ := i.bounds
  have hread : date? (Numeral.padded 4 i.year ++ '-' :: (Numeral.padded 2 i.month ++ '-' ::
      (Numeral.padded 2 i.day ++ i.clock))) = some i.clock := by
    simp only [date?, year?_padded i.short, Option.bind_eq_bind, Option.bind_some, mark?_self, short?_padded hmonth,
      short?_padded hday, i.date, if_true]
  rw [isDate, takesAll, text, String.toList_ofList, hread, clock]
  rfl

/-- A year has more digits than an hour, so the text of an instant is no time. -/
theorem isTime_text (i : Instant) : isTime i.text = false := by
  have hshort := i.short
  have hlead : i.year / 10 / 10 < 100 := by omega
  have hdigit : ∀ d < 10, Numeral.digitChar d ≠ ':' := by decide
  have hnot : Numeral.digitChar (i.year / 10 % 10) ≠ ':' := hdigit _ (Nat.mod_lt _ (by decide))
  have hyear : Numeral.padded 4 i.year = Numeral.padded 2 (i.year / 10 / 10) ++
      [Numeral.digitChar (i.year / 10 % 10), Numeral.digitChar (i.year % 10)] := by
    simp [Numeral.padded]
  simp only [isTime, takesAll, text, String.toList_ofList, hyear, List.append_assoc, List.cons_append, time?,
    shortTime?, short?_padded hlead, Option.bind_eq_bind, Option.bind_some, mark?_of_ne hnot, Option.bind_none]
  rfl

theorem isUuid_text (i : Instant) : Uuid.isUuid i.text = false := by
  have hfirst : ∀ d < 10, Numeral.digitChar d ≠ '\x7b' ∧ (Numeral.digitChar d).toLower ≠ 'u' := by decide
  have hlead : i.year / 10 / 10 / 10 % 10 < 10 := Nat.mod_lt _ (by decide)
  have hyear : Numeral.padded 4 i.year = Numeral.digitChar (i.year / 10 / 10 / 10 % 10) ::
      [Numeral.digitChar (i.year / 10 / 10 % 10), Numeral.digitChar (i.year / 10 % 10),
        Numeral.digitChar (i.year % 10)] := by
    simp [Numeral.padded]
  rw [text, hyear, List.cons_append]
  refine Uuid.isUuid_eq_false (c := 'T') ?_ (by decide) (by decide) (hfirst _ hlead).1 (hfirst _ hlead).2
  simp [clock]

end Instant

end Calendar

end DataModel

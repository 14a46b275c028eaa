import DataModel.Json.Printer
import DataModel.Json.Reader
import DataModel.Proofs.Numeral

/-!
# JSON text read back

The text of a tree is read as the tree, when the tree has only what text can say: no number with a fraction, no part
without a value, and whole numbers in the range of 64-bit integers with or without a sign. Lists and objects that stand
in more than 127 others are the exception: they are read as parts without a value.
-/

namespace DataModel.Json

mutual

/-- Whether text can say all of a tree. -/
def isExact : Json → Bool
  | int n => -9223372036854775808 ≤ n && n < 18446744073709551616
  | arr items => areExact items
  | obj members => haveExact members
  | float _ | unreadable => false
  | null | bool _ | str _ => true

def areExact : List Json → Bool
  | [] => true
  | j :: js => isExact j && areExact js

def haveExact : List (String × Json) → Bool
  | [] => true
  | (_, j) :: ms => isExact j && haveExact ms

end

mutual

theorem readable_of_isExact {j : Json} (h : j.isExact = true) : j.readable = true := by
  cases j with
  | float x => cases h
  | unreadable => cases h
  | arr items => exact readableItems_of_areExact h
  | obj members => exact readableMembers_of_haveExact h
  | _ => rfl

theorem readableItems_of_areExact {js : List Json} (h : areExact js = true) : readableItems js = true := by
  cases js with
  | nil => rfl
  | cons j js =>
    obtain ⟨hj, hjs⟩ := Bool.and_eq_true_iff.1 h
    rw [readableItems, readable_of_isExact hj, readableItems_of_areExact hjs, Bool.and_true]

theorem readableMembers_of_haveExact {ms : List (String × Json)} (h : haveExact ms = true) :
    readableMembers ms = true := by
  cases ms with
  | nil => rfl
  | cons m ms =>
    obtain ⟨k, j⟩ := m
    obtain ⟨hj, hms⟩ := Bool.and_eq_true_iff.1 h
    rw [readableMembers, readable_of_isExact hj, readableMembers_of_haveExact hms, Bool.and_true]

end

mutual

/-- The tokens of a tree. -/
def tokensOf : Json → List Token
  | str s => [.text (some s)]
  | arr items => .openList :: (tokensOfItems items ++ [.closeList])
  | obj members => .openObject :: (tokensOfMembers members ++ [.closeObject])
  | null => [.scalar null]
  | bool b => [.scalar (bool b)]
  | int n => [.scalar (int n)]
  | float x => [.scalar (float x)]
  | unreadable => [.scalar unreadable]

def tokensOfItems : List Json → List Token
  | [] => []
  | [j] => tokensOf j
  | j :: js => tokensOf j ++ .comma :: tokensOfItems js

def tokensOfMembers : List (String × Json) → List Token
  | [] => []
  | [(k, j)] => .text (some k) :: .colon :: tokensOf j
  | (k, j) :: ms => .text (some k) :: .colon :: (tokensOf j ++ .comma :: tokensOfMembers ms)

end

section Lexing

variable {cs rest : List Char} {ts : List Token} {c : Char}

/-- The tokens that a text is read as, given a step for each character. -/
def Reads (cs : List Char) (ts : List Token) : Prop :=
  ∀ fuel, cs.length ≤ fuel → tokensWithin fuel cs = some ts

theorem reads_nil : Reads [] [] := by
  intro fuel _
  cases fuel <;> rfl

theorem reads_token {t : Token} (used : List Char) (hc : isSeparator c = false)
    (ht : token? (c :: (used ++ rest)) = some (t, rest)) (h : Reads rest ts) :
    Reads (c :: (used ++ rest)) (t :: ts) := by
  intro fuel hfuel
  cases fuel with
  | zero => cases hfuel
  | succ fuel =>
    have hlength : rest.length ≤ fuel := by
      rw [List.length_cons, List.length_append] at hfuel
      omega
    simp [tokensWithin, hc, ht, h fuel hlength]

/-- Whether a number or a name ends before a text. -/
def Closed (rest : List Char) : Prop :=
  ∀ c ∈ rest.head?, c = ',' ∨ c = ']' ∨ c = '\x7d'

theorem closed_nil : Closed [] :=
  nofun

theorem closed_cons (h : c = ',' ∨ c = ']' ∨ c = '\x7d') : Closed (c :: rest) := by
  intro d hd
  rw [← Option.some.inj hd]
  exact h

theorem leadingDigits_append (h : ∀ c ∈ cs, c.isDigit = true) (hrest : Closed rest) :
    leadingDigits (cs ++ rest) = (cs.map fun c => c.toNat - '0'.toNat, rest) := by
  induction cs with
  | nil =>
    cases rest with
    | nil => rfl
    | cons c rest =>
      have hc : Numeral.digit? c = none := by rcases hrest c rfl with rfl | rfl | rfl <;> rfl
      simp [leadingDigits, hc]
  | cons c cs ih =>
    rw [List.forall_mem_cons] at h
    simp [leadingDigits, Numeral.digit?_of_isDigit h.1, ih h.2]

theorem le_ofDigitChars (cs : List Char) (acc : Nat) : acc ≤ Nat.ofDigitChars 10 cs acc := by
  induction cs generalizing acc with
  | nil => exact Nat.le_refl acc
  | cons c cs ih =>
    have hnext := ih (10 * acc + (c.toNat - '0'.toNat))
    rw [Nat.ofDigitChars_cons]
    omega

theorem ofDigitChars_lt {cs : List Char} (h : ∀ c ∈ cs, c.isDigit = true) (acc : Nat) :
    Nat.ofDigitChars 10 cs acc < (acc + 1) * tenTo cs.length := by
  induction cs generalizing acc with
  | nil => exact Nat.lt_of_lt_of_eq (Nat.lt_succ_self acc) (Nat.mul_one _).symm
  | cons c cs ih =>
    rw [List.forall_mem_cons] at h
    have hdigit : c.toNat - '0'.toNat < 10 := by
      have hc := h.1
      simp only [Char.isDigit, Bool.and_eq_true, decide_eq_true_eq] at hc
      have hle : c.toNat ≤ '9'.toNat := hc.2
      have hnine : '9'.toNat = '0'.toNat + 9 := rfl
      omega
    have hrest := ih h.2 (10 * acc + (c.toNat - '0'.toNat))
    rw [Nat.ofDigitChars_cons]
    calc Nat.ofDigitChars 10 cs (10 * acc + (c.toNat - '0'.toNat))
        < (10 * acc + (c.toNat - '0'.toNat) + 1) * tenTo cs.length := hrest
      _ ≤ ((acc + 1) * 10) * tenTo cs.length := Nat.mul_le_mul_right _ (by omega)
      _ = (acc + 1) * tenTo (c :: cs).length := by
        rw [List.length_cons, Nat.add_comm cs.length 1, tenTo_add, Nat.mul_assoc]
        rfl

/-- A significand takes all digits of a number that fits. -/
theorem absorb_digits (cs : List Char) (acc : Nat) (h : Nat.ofDigitChars 10 cs acc < twoTo 64) :
    absorb acc (cs.map fun c => c.toNat - '0'.toNat) = (Nat.ofDigitChars 10 cs acc, 0) := by
  induction cs generalizing acc with
  | nil => rfl
  | cons c cs ih =>
    rw [Nat.ofDigitChars_cons, Nat.mul_comm] at h ⊢
    have hfits : acc * 10 + (c.toNat - '0'.toNat) < twoTo 64 := Nat.lt_of_le_of_lt (le_ofDigitChars cs _) h
    rw [List.map_cons, absorb, if_pos hfits]
    exact ih _ h

/-- Only zero has a digit zero in front. -/
theorem digits_ne_zero_cons {n : Nat} {d : Char} {ds : List Char} : Numeral.ofNat n ≠ '0' :: d :: ds := by
  intro hdigits
  have hall : ∀ c ∈ d :: ds, c.isDigit = true := by
    intro c hc
    exact Numeral.isDigit_of_mem_ofNat (hdigits ▸ List.mem_cons_of_mem _ hc)
  have hvalue : Nat.ofDigitChars 10 ('0' :: d :: ds) 0 = n := by
    rw [← hdigits]
    simp [Numeral.ofNat]
  have hsmall : n < tenTo (d :: ds).length := by
    have hlt := ofDigitChars_lt hall 0
    rw [Nat.zero_add, Nat.one_mul] at hlt
    rw [← hvalue, Nat.ofDigitChars_cons]
    exact hlt
  have hlength := (Nat.length_toDigits_le_iff (b := 10) (by decide) (Nat.succ_pos ds.length)).2 hsmall
  have hlong : (Numeral.ofNat n).length = ds.length + 2 := by rw [hdigits]; rfl
  rw [Numeral.ofNat] at hlong
  omega

/-- The digits of a number are read as the digits before the point of a number without a fraction. -/
theorem number?_digits (negative : Bool) (n : Nat) (hrest : Closed rest) :
    number? negative (Numeral.ofNat n ++ rest) =
      some (⟨negative, (Numeral.ofNat n).map fun c => c.toNat - '0'.toNat, none, none⟩, rest) := by
  have hdigit : ∀ c ∈ Numeral.ofNat n, c.isDigit = true := fun c hc => Numeral.isDigit_of_mem_ofNat hc
  have hleading := leadingDigits_append hdigit hrest
  have hfraction : fraction? rest = some (none, rest) := by
    cases rest with
    | nil => rfl
    | cons c rest => rcases hrest c rfl with rfl | rfl | rfl <;> rfl
  have hexponent : exponent? rest = some (none, rest) := by
    cases rest with
    | nil => rfl
    | cons c rest => rcases hrest c rfl with rfl | rfl | rfl <;> rfl
  unfold number?
  rw [hleading]
  cases hdigits : Numeral.ofNat n with
  | nil => exact absurd hdigits Nat.toDigits_ne_nil
  | cons c cs =>
    cases cs with
    | nil => simp [hfraction, hexponent]
    | cons d ds =>
      -- a number with more digits than one does not begin with zero
      have hfirst : c.toNat - '0'.toNat ≠ 0 := by
        intro hzero
        have hc := hdigit c (hdigits ▸ List.mem_cons_self)
        simp only [Char.isDigit, Bool.and_eq_true, decide_eq_true_eq] at hc
        have hle : '0'.toNat ≤ c.toNat := hc.1
        have heq : c.toNat = '0'.toNat := by omega
        have hchar : c = '0' := Char.toNat_inj.1 heq
        exact digits_ne_zero_cons (hchar ▸ hdigits)
      obtain ⟨k, hk⟩ : ∃ k, c.toNat - 48 = k + 1 := Nat.exists_eq_succ_of_ne_zero hfirst
      simp [hk, hfraction, hexponent]

/-- The value of the digits of a number. -/
theorem value_digits (negative : Bool) (n : Nat) (h : n < twoTo 64)
    (hnegative : negative = true → 0 < n ∧ n ≤ twoTo 63) :
    NumberText.value ⟨negative, (Numeral.ofNat n).map fun c => c.toNat - '0'.toNat, none, none⟩ =
      int (if negative then -(Int.ofNat n) else Int.ofNat n) := by
  have hvalue : Nat.ofDigitChars 10 (Numeral.ofNat n) 0 = n := by simp [Numeral.ofNat]
  have habsorb := absorb_digits (Numeral.ofNat n) 0 (by rw [hvalue]; exact h)
  rw [hvalue] at habsorb
  unfold NumberText.value
  rw [habsorb]
  cases negative with
  | false => rfl
  | true =>
    obtain ⟨hpos, hle⟩ := hnegative rfl
    have hbounds : ¬ (n = 0 ∨ twoTo 63 < n) := by omega
    simp [hbounds]

/-- A text that begins with a digit begins with a number. -/
theorem token?_digit (hc : c.isDigit = true) :
    token? (c :: cs) = (number? false (c :: cs)).map fun r => (.scalar r.1.value, r.2) := by
  have hne : ∀ d : Char, d.isDigit = false → c ≠ d := by
    rintro d hd rfl
    rw [hc] at hd
    cases hd
  unfold token?
  split
  case h_12 => cases number? false (c :: cs) <;> rfl
  all_goals
    rename_i h
    exact absurd (List.cons.inj h).1 (hne _ rfl)

/-- A whole number is read as what it was written for. -/
theorem token?_int {n : Int} (hlow : -9223372036854775808 ≤ n) (hhigh : n < 18446744073709551616)
    (hrest : Closed rest) :
    token? (Numeral.ofInt n ++ rest) = some (.scalar (int n), rest) := by
  have hlimit : (twoTo 64 : Int) = 18446744073709551616 ∧ (twoTo 63 : Int) = 9223372036854775808 := ⟨rfl, rfl⟩
  cases n with
  | ofNat m =>
    have hm : m < twoTo 64 := by
      have hcast : (m : Int) < 18446744073709551616 := hhigh
      omega
    have hnumber := number?_digits false m hrest
    have hvalue := value_digits false m hm nofun
    show token? (Numeral.ofNat m ++ rest) = _
    cases hdigits : Numeral.ofNat m with
    | nil => exact absurd hdigits Nat.toDigits_ne_nil
    | cons c cs =>
      have hc : c.isDigit = true := Numeral.isDigit_of_mem_ofNat (hdigits ▸ List.mem_cons_self)
      rw [hdigits] at hnumber hvalue
      rw [List.cons_append, token?_digit hc, ← List.cons_append, hnumber, Option.map_some, hvalue]
      rfl
  | negSucc m =>
    have hm : m + 1 ≤ twoTo 63 := by
      have hcast : -9223372036854775808 ≤ -((m : Int) + 1) := by
        rw [← Int.negSucc_eq]
        exact hlow
      omega
    have hsmall : twoTo 63 < twoTo 64 := by decide
    have hnumber := number?_digits true (m + 1) hrest
    have hvalue := value_digits true (m + 1) (Nat.lt_of_le_of_lt hm hsmall) fun _ => ⟨Nat.succ_pos m, hm⟩
    show token? ('-' :: (Numeral.ofNat (m + 1) ++ rest)) = _
    simp only [token?, hnumber, Option.bind_eq_bind, Option.bind_some, hvalue]
    rfl

/-- A character of a string is read as one piece. -/
theorem pieces?_escapedChar (c : Char) {ps : List Piece} (h : pieces? cs = some (ps, rest)) :
    ∃ p, pieces? (escapedChar c ++ cs) = some (p :: ps, rest) ∧
      (p = .char c ∨ p = .unit c.toNat ∧ c.toNat < 32) := by
  have hhex : ∀ n < 32, hexUnit? '0' '0' (hexChar (n / 16)) (hexChar (n % 16)) = some n := by decide
  unfold escapedChar
  split_ifs with hquote hslash hback hfeed hline hreturn htab hcontrol
  · exact ⟨.char c, by simp [pieces?, escaped?, h, hquote], Or.inl rfl⟩
  · exact ⟨.char c, by simp [pieces?, escaped?, h, hslash], Or.inl rfl⟩
  · exact ⟨.char c, by simp [pieces?, escaped?, h, hback], Or.inl rfl⟩
  · exact ⟨.char c, by simp [pieces?, escaped?, h, hfeed], Or.inl rfl⟩
  · exact ⟨.char c, by simp [pieces?, escaped?, h, hline], Or.inl rfl⟩
  · exact ⟨.char c, by simp [pieces?, escaped?, h, hreturn], Or.inl rfl⟩
  · exact ⟨.char c, by simp [pieces?, escaped?, h, htab], Or.inl rfl⟩
  · exact ⟨.unit c.toNat, by simp [pieces?, hhex _ hcontrol, h], Or.inr ⟨rfl, hcontrol⟩⟩
  · exact ⟨.char c, by simp [pieces?, h, hslash, hcontrol], Or.inl rfl⟩

/-- A unit that is no half of a surrogate pair is a character by itself. -/
theorem characters?_unit {n : Nat} (h : n < 0xD800) {ps : List Piece} {s : List Char} (hs : characters? ps = some s) :
    characters? (.unit n :: ps) = some (Char.ofNat n :: s) := by
  have hstep : characters? (.unit n :: ps) = (characters? ps).bind fun s => some (Char.ofNat n :: s) := by
    cases ps with
    | nil => exact if_pos (Or.inl h)
    | cons q qs => cases q <;> exact if_pos (Or.inl h)
  rw [hstep, hs]
  rfl

/-- The characters of a string are read back. -/
theorem exists_pieces? (s rest : List Char) :
    ∃ ps, pieces? (escapedChars s ++ '"' :: rest) = some (ps, rest) ∧ characters? ps = some s := by
  induction s with
  | nil => exact ⟨[], rfl, rfl⟩
  | cons c s ih =>
    obtain ⟨ps, hps, hs⟩ := ih
    obtain ⟨p, hp, hc⟩ := pieces?_escapedChar c hps
    refine ⟨p :: ps, ?_, ?_⟩
    · rw [escapedChars, List.append_assoc]
      exact hp
    · rcases hc with rfl | ⟨rfl, hcontrol⟩
      · simp [characters?, hs]
      · -- a control character is no half of a surrogate pair
        have hsmall : c.toNat < 0xD800 := by omega
        rw [characters?_unit hsmall hs, Char.ofNat_toNat]

theorem token?_str (s : String) (rest : List Char) :
    token? ((quoted s).toList ++ rest) = some (.text (some s), rest) := by
  obtain ⟨ps, hps, hs⟩ := exists_pieces? s.toList rest
  have htext : (quoted s).toList ++ rest = '"' :: (escapedChars s.toList ++ '"' :: rest) := by
    simp [quoted, String.toList_ofList]
  rw [htext]
  simp [token?, hps, hs]

end Lexing

section Text

variable {rest : List Char} {ts : List Token}

theorem textItems_cons (j i : Json) (js : List Json) :
    textItems (j :: i :: js) = text j ++ "," ++ textItems (i :: js) := by
  rw [textItems]
  exact List.cons_ne_nil i js

theorem textMembers_cons (k : String) (j : Json) (m : String × Json) (ms : List (String × Json)) :
    textMembers ((k, j) :: m :: ms) = quoted k ++ ":" ++ text j ++ "," ++ textMembers (m :: ms) := by
  rw [textMembers]
  exact List.cons_ne_nil m ms

theorem reads_quoted (s : String) (h : Reads rest ts) : Reads ((quoted s).toList ++ rest) (.text (some s) :: ts) := by
  have htoken := token?_str s rest
  have htext : (quoted s).toList = '"' :: (escapedChars s.toList ++ ['"']) := String.toList_ofList
  rw [htext, List.cons_append] at htoken ⊢
  exact reads_token _ rfl htoken h

theorem reads_int {n : Int} (hlow : -9223372036854775808 ≤ n) (hhigh : n < 18446744073709551616) (hrest : Closed rest)
    (h : Reads rest ts) : Reads (Numeral.ofInt n ++ rest) (.scalar (int n) :: ts) := by
  have htoken := token?_int hlow hhigh hrest
  have hdigit : ∀ c : Char, c.isDigit = true → isSeparator c = false := by
    intro c hc
    have hne : ∀ d : Char, d.isDigit = false → c ≠ d := by
      rintro d hd rfl
      rw [hc] at hd
      cases hd
    simp [isSeparator, hne ' ' rfl, hne '\t' rfl, hne '\n' rfl, hne '\r' rfl]
  cases n with
  | ofNat m =>
    have htext : Numeral.ofInt (.ofNat m) = Numeral.ofNat m := rfl
    rw [htext] at htoken ⊢
    cases hdigits : Numeral.ofNat m with
    | nil => exact absurd hdigits Nat.toDigits_ne_nil
    | cons c cs =>
      have hc : c.isDigit = true := Numeral.isDigit_of_mem_ofNat (hdigits ▸ List.mem_cons_self)
      rw [hdigits] at htoken
      exact reads_token cs (hdigit c hc) htoken h
  | negSucc m => exact reads_token _ rfl htoken h

mutual

/-- The text of a tree is read as its tokens. -/
theorem reads_text {j : Json} (hj : j.isExact = true) {rest : List Char} {ts : List Token} (hrest : Closed rest)
    (h : Reads rest ts) : Reads (j.text.toList ++ rest) (tokensOf j ++ ts) := by
  cases j with
  | null => exact reads_token ['u', 'l', 'l'] rfl rfl h
  | bool b =>
    cases b with
    | true => exact reads_token ['r', 'u', 'e'] rfl rfl h
    | false => exact reads_token ['a', 'l', 's', 'e'] rfl rfl h
  | int n =>
    simp only [isExact, Bool.and_eq_true, decide_eq_true_eq] at hj
    have htext : (text (int n)).toList = Numeral.ofInt n := String.toList_ofList
    rw [htext]
    exact reads_int hj.1 hj.2 hrest h
  | float x => cases hj
  | unreadable => cases hj
  | str s => exact reads_quoted s h
  | arr items =>
    have hclose : Reads (']' :: rest) (.closeList :: ts) := reads_token [] rfl rfl h
    have hitems : Reads ((textItems items).toList ++ ']' :: rest) (tokensOfItems items ++ .closeList :: ts) :=
      reads_textItems hj (closed_cons (Or.inr (Or.inl rfl))) hclose
    have htext : (text (arr items)).toList ++ rest = '[' :: ((textItems items).toList ++ ']' :: rest) := by
      simp [text]
    have htokens : tokensOf (arr items) ++ ts = .openList :: (tokensOfItems items ++ .closeList :: ts) := by
      simp [tokensOf]
    rw [htext, htokens]
    exact reads_token [] rfl rfl hitems
  | obj members =>
    have hclose : Reads ('\x7d' :: rest) (.closeObject :: ts) := reads_token [] rfl rfl h
    have hmembers : Reads ((textMembers members).toList ++ '\x7d' :: rest)
        (tokensOfMembers members ++ .closeObject :: ts) :=
      reads_textMembers hj (closed_cons (Or.inr (Or.inr rfl))) hclose
    have htext : (text (obj members)).toList ++ rest = '\x7b' :: ((textMembers members).toList ++ '\x7d' :: rest) := by
      simp [text]
    have htokens : tokensOf (obj members) ++ ts = .openObject :: (tokensOfMembers members ++ .closeObject :: ts) := by
      simp [tokensOf]
    rw [htext, htokens]
    exact reads_token [] rfl rfl hmembers

theorem reads_textItems {js : List Json} (hjs : areExact js = true) {rest : List Char} {ts : List Token}
    (hrest : Closed rest) (h : Reads rest ts) : Reads ((textItems js).toList ++ rest) (tokensOfItems js ++ ts) := by
  cases js with
  | nil => exact h
  | cons j js =>
    obtain ⟨hj, hjs⟩ := Bool.and_eq_true_iff.1 hjs
    cases js with
    | nil => exact reads_text hj hrest h
    | cons i js =>
      have hmore := reads_textItems hjs hrest h
      have hcomma : Reads (',' :: ((textItems (i :: js)).toList ++ rest)) (.comma :: (tokensOfItems (i :: js) ++ ts)) :=
        reads_token [] rfl rfl hmore
      have hfirst := reads_text hj (closed_cons (Or.inl rfl)) hcomma
      have htext : (textItems (j :: i :: js)).toList ++ rest =
          j.text.toList ++ ',' :: ((textItems (i :: js)).toList ++ rest) := by
        simp [textItems_cons]
      have htokens : tokensOfItems (j :: i :: js) ++ ts = tokensOf j ++ .comma :: (tokensOfItems (i :: js) ++ ts) := by
        simp [tokensOfItems]
      rw [htext, htokens]
      exact hfirst

theorem reads_textMembers {ms : List (String × Json)} (hms : haveExact ms = true) {rest : List Char}
    {ts : List Token} (hrest : Closed rest) (h : Reads rest ts) :
    Reads ((textMembers ms).toList ++ rest) (tokensOfMembers ms ++ ts) := by
  cases ms with
  | nil => exact h
  | cons m ms =>
    obtain ⟨k, j⟩ := m
    obtain ⟨hj, hms⟩ := Bool.and_eq_true_iff.1 hms
    cases ms with
    | nil =>
      have hvalue := reads_text hj hrest h
      have hcolon : Reads (':' :: (j.text.toList ++ rest)) (.colon :: (tokensOf j ++ ts)) :=
        reads_token [] rfl rfl hvalue
      have hkey := reads_quoted k hcolon
      have htext : (textMembers [(k, j)]).toList ++ rest = (quoted k).toList ++ ':' :: (j.text.toList ++ rest) := by
        simp [textMembers]
      rw [htext]
      exact hkey
    | cons m ms =>
      have hmore := reads_textMembers hms hrest h
      have hcomma : Reads (',' :: ((textMembers (m :: ms)).toList ++ rest))
          (.comma :: (tokensOfMembers (m :: ms) ++ ts)) :=
        reads_token [] rfl rfl hmore
      have hvalue := reads_text hj (closed_cons (Or.inl rfl)) hcomma
      have hcolon := reads_token (c := ':') (t := .colon) [] rfl rfl hvalue
      have hkey := reads_quoted k hcolon
      have htext : (textMembers ((k, j) :: m :: ms)).toList ++ rest =
          (quoted k).toList ++ ':' :: (j.text.toList ++ ',' :: ((textMembers (m :: ms)).toList ++ rest)) := by
        simp [textMembers_cons]
      have htokens : tokensOfMembers ((k, j) :: m :: ms) ++ ts =
          .text (some k) :: .colon :: (tokensOf j ++ .comma :: (tokensOfMembers (m :: ms) ++ ts)) := by
        simp [tokensOfMembers]
      rw [htext, htokens]
      exact hkey

end

end Text

mutual

/-- A tree that stands in some lists and objects, with those parts marked that stand in too many. -/
def capped (level : Nat) : Json → Json
  | arr items => if depthLimit < level + 1 then unreadable else arr (cappedItems (level + 1) items)
  | obj members => if depthLimit < level + 1 then unreadable else obj (cappedMembers (level + 1) members)
  | null => null
  | bool b => bool b
  | int n => int n
  | float x => float x
  | str s => str s
  | unreadable => unreadable

def cappedItems (level : Nat) : List Json → List Json
  | [] => []
  | j :: js => capped level j :: cappedItems level js

def cappedMembers (level : Nat) : List (String × Json) → List (String × Json)
  | [] => []
  | (k, j) :: ms => (k, capped level j) :: cappedMembers level ms

end

section Running

variable {opened : List Open} {level : Nat} {ts : List Token}

/-- Whether a value may come next. -/
def Want.allowsValue : Want → Prop
  | value | itemOrClose => True
  | keyOrClose | key | colon | commaOrClose | nothing _ => False

theorem run?_start (t : Token) {want : Want} (hwant : want.allowsValue) {p : Progress} (ht : t ≠ .closeList)
    (h : Progress.start? ⟨opened, level, want⟩ t = some p) :
    Progress.run? ⟨opened, level, want⟩ (t :: ts) = p.run? ts := by
  have hstep : Progress.step? ⟨opened, level, want⟩ t = some p := by
    cases want with
    | value => exact h
    | itemOrClose => cases t <;> first | exact absurd rfl ht | exact h
    | _ => cases hwant
  rw [Progress.run?, hstep]

/-- The key of a member and its colon, after which the value comes. -/
theorem run?_key (members : List (String × Json)) (key k : String) {want : Want}
    (hwant : want = .keyOrClose ∨ want = .key) :
    Progress.run? ⟨.object members key true :: opened, level, want⟩ (.text (some k) :: .colon :: ts) =
      Progress.run? ⟨.object members k true :: opened, level, .value⟩ ts := by
  rcases hwant with rfl | rfl <;> rfl

theorem run?_closeObject (members : List (String × Json)) (key : String) {want : Want}
    (hwant : want = .keyOrClose ∨ want = .commaOrClose) :
    Progress.run? ⟨.object members key true :: opened, level + 1, want⟩ (.closeObject :: ts) =
      (Progress.deliver opened level (if depthLimit < level + 1 then unreadable else obj members.reverse)).run? ts := by
  have hsound : (depthLimit < level + 1 ∨ (!true) = true) ↔ depthLimit < level + 1 := by simp
  have hclose : Progress.run? ⟨.object members key true :: opened, level + 1, want⟩ (.closeObject :: ts) =
      (Progress.deliver opened level (if depthLimit < level + 1 ∨ (!true) = true then unreadable
        else obj members.reverse)).run? ts := by
    rcases hwant with rfl | rfl <;> rfl
  rw [hclose]
  simp only [hsound]

mutual

/-- The tokens of a tree are read as the tree. -/
theorem run?_tokensOf (j : Json) (opened : List Open) (level : Nat) {want : Want} (hwant : want.allowsValue)
    (ts : List Token) :
    Progress.run? ⟨opened, level, want⟩ (tokensOf j ++ ts) =
      (Progress.deliver opened level (capped level j)).run? ts := by
  cases j with
  | null => exact run?_start _ hwant nofun rfl
  | bool b => exact run?_start _ hwant nofun rfl
  | int n => exact run?_start _ hwant nofun rfl
  | float x => exact run?_start _ hwant nofun rfl
  | str s => exact run?_start _ hwant nofun rfl
  | unreadable => exact run?_start _ hwant nofun rfl
  | arr items =>
    have htokens : tokensOf (arr items) ++ ts = .openList :: (tokensOfItems items ++ .closeList :: ts) := by
      simp [tokensOf]
    have hitem : Want.allowsValue .itemOrClose := trivial
    rw [htokens, run?_start .openList hwant nofun rfl]
    cases items with
    | nil => rfl
    | cons j js => exact run?_tokensOfItems [] (j :: js) (List.cons_ne_nil j js) opened level hitem ts
  | obj members =>
    have htokens : tokensOf (obj members) ++ ts = .openObject :: (tokensOfMembers members ++ .closeObject :: ts) := by
      simp [tokensOf]
    rw [htokens, run?_start .openObject hwant nofun rfl]
    cases members with
    | nil => exact run?_closeObject [] "" (Or.inl rfl)
    | cons m ms => exact run?_tokensOfMembers [] "" (m :: ms) (List.cons_ne_nil m ms) opened level (Or.inl rfl) ts

theorem run?_tokensOfItems (before items : List Json) (hne : items ≠ []) (opened : List Open) (level : Nat)
    {want : Want} (hwant : want.allowsValue) (ts : List Token) :
    Progress.run? ⟨.list before :: opened, level + 1, want⟩ (tokensOfItems items ++ .closeList :: ts) =
      (Progress.deliver opened level (if depthLimit < level + 1 then unreadable
        else arr (before.reverse ++ cappedItems (level + 1) items))).run? ts := by
  cases items with
  | nil => exact absurd rfl hne
  | cons j js =>
    have hvalue := run?_tokensOf j (.list before :: opened) (level + 1) hwant
    cases js with
    | nil =>
      show Progress.run? _ (tokensOf j ++ .closeList :: ts) = _
      rw [hvalue, cappedItems, cappedItems, ← List.reverse_cons]
      rfl
    | cons i js =>
      have hnext : Want.allowsValue .value := trivial
      have hmore := run?_tokensOfItems (capped (level + 1) j :: before) (i :: js) (List.cons_ne_nil i js) opened level
        hnext ts
      have htokens : tokensOfItems (j :: i :: js) ++ .closeList :: ts =
          tokensOf j ++ .comma :: (tokensOfItems (i :: js) ++ .closeList :: ts) := by
        simp [tokensOfItems]
      rw [List.reverse_cons, List.append_assoc] at hmore
      rw [htokens, hvalue, cappedItems]
      exact hmore

theorem run?_tokensOfMembers (before : List (String × Json)) (key : String) (members : List (String × Json))
    (hne : members ≠ []) (opened : List Open) (level : Nat) {want : Want}
    (hwant : want = .keyOrClose ∨ want = .key) (ts : List Token) :
    Progress.run? ⟨.object before key true :: opened, level + 1, want⟩ (tokensOfMembers members ++ .closeObject :: ts) =
      (Progress.deliver opened level (if depthLimit < level + 1 then unreadable
        else obj (before.reverse ++ cappedMembers (level + 1) members))).run? ts := by
  cases members with
  | nil => exact absurd rfl hne
  | cons m ms =>
    obtain ⟨k, j⟩ := m
    have hnext : Want.allowsValue .value := trivial
    have hvalue := run?_tokensOf j (.object before k true :: opened) (level + 1) hnext
    cases ms with
    | nil =>
      show Progress.run? _ (.text (some k) :: .colon :: (tokensOf j ++ .closeObject :: ts)) = _
      rw [run?_key before key k hwant, hvalue, cappedMembers, cappedMembers, ← List.reverse_cons]
      exact run?_closeObject _ k (Or.inr rfl)
    | cons m ms =>
      have hmore := run?_tokensOfMembers ((k, capped (level + 1) j) :: before) k (m :: ms) (List.cons_ne_nil m ms)
        opened level (Or.inr rfl) ts
      have htokens : tokensOfMembers ((k, j) :: m :: ms) ++ .closeObject :: ts =
          .text (some k) :: .colon :: (tokensOf j ++ .comma :: (tokensOfMembers (m :: ms) ++ .closeObject :: ts)) := by
        simp [tokensOfMembers]
      rw [List.reverse_cons, List.append_assoc] at hmore
      rw [htokens, run?_key before key k hwant, hvalue, cappedMembers]
      exact hmore

end

end Running

/-- The text of a tree is read as the tree, but for what is nested too deeply. -/
theorem parse?_text {j : Json} (h : j.isExact = true) : parse? j.text = some (capped 0 j) := by
  have htokens : tokens? j.text.toList = some (tokensOf j) := by
    have hreads := reads_text h closed_nil reads_nil
    rw [List.append_nil, List.append_nil] at hreads
    exact hreads _ (Nat.le_refl _)
  have hvalue : Want.allowsValue .value := trivial
  have hrun := run?_tokensOf j [] 0 hvalue []
  rw [List.append_nil] at hrun
  rw [parse?, htokens]
  exact hrun

mutual

/-- Nothing is marked in a tree that is not too deep. -/
theorem capped_eq_self {j : Json} {level : Nat} (h : level + j.depth ≤ depthLimit) : capped level j = j := by
  cases j with
  | arr items =>
    rw [depth] at h
    have hlevel : ¬ depthLimit < level + 1 := by omega
    have hitems : level + 1 + depthItems items ≤ depthLimit := by omega
    rw [capped, if_neg hlevel, cappedItems_eq_self hitems]
  | obj members =>
    rw [depth] at h
    have hlevel : ¬ depthLimit < level + 1 := by omega
    have hmembers : level + 1 + depthMembers members ≤ depthLimit := by omega
    rw [capped, if_neg hlevel, cappedMembers_eq_self hmembers]
  | _ => rfl

theorem cappedItems_eq_self {js : List Json} {level : Nat} (h : level + depthItems js ≤ depthLimit) :
    cappedItems level js = js := by
  cases js with
  | nil => rfl
  | cons j js =>
    rw [depthItems] at h
    have hj : level + j.depth ≤ depthLimit := by omega
    have hjs : level + depthItems js ≤ depthLimit := by omega
    rw [cappedItems, capped_eq_self hj, cappedItems_eq_self hjs]

theorem cappedMembers_eq_self {ms : List (String × Json)} {level : Nat} (h : level + depthMembers ms ≤ depthLimit) :
    cappedMembers level ms = ms := by
  cases ms with
  | nil => rfl
  | cons m ms =>
    obtain ⟨k, j⟩ := m
    rw [depthMembers] at h
    have hj : level + j.depth ≤ depthLimit := by omega
    have hms : level + depthMembers ms ≤ depthLimit := by omega
    rw [cappedMembers, capped_eq_self hj, cappedMembers_eq_self hms]

end

mutual

/-- A part is marked when a tree is too deep. -/
theorem readable_capped {j : Json} (hj : j.isExact = true) {level : Nat} (hlevel : level ≤ depthLimit) :
    (capped level j).readable = true ↔ level + j.depth ≤ depthLimit := by
  cases j with
  | float x => cases hj
  | unreadable => cases hj
  | arr items =>
    rw [capped, depth]
    split
    next hdeep => simp only [readable, Bool.false_eq_true, false_iff]; omega
    next hdeep =>
      have hnext : level + 1 ≤ depthLimit := by omega
      have hitems : readableItems (cappedItems (level + 1) items) = true ↔ level + 1 + depthItems items ≤ depthLimit :=
        readable_cappedItems hj hnext
      rw [readable, hitems]
      omega
  | obj members =>
    rw [capped, depth]
    split
    next hdeep => simp only [readable, Bool.false_eq_true, false_iff]; omega
    next hdeep =>
      have hnext : level + 1 ≤ depthLimit := by omega
      have hmembers : readableMembers (cappedMembers (level + 1) members) = true ↔
          level + 1 + depthMembers members ≤ depthLimit := readable_cappedMembers hj hnext
      rw [readable, hmembers]
      omega
  | _ => simpa [capped, readable, depth] using hlevel

theorem readable_cappedItems {js : List Json} (hjs : areExact js = true) {level : Nat} (hlevel : level ≤ depthLimit) :
    readableItems (cappedItems level js) = true ↔ level + depthItems js ≤ depthLimit := by
  cases js with
  | nil => simpa [cappedItems, readableItems, depthItems] using hlevel
  | cons j js =>
    obtain ⟨hj, hjs⟩ := Bool.and_eq_true_iff.1 hjs
    rw [cappedItems, readableItems, depthItems, Bool.and_eq_true_iff, readable_capped hj hlevel,
      readable_cappedItems hjs hlevel]
    omega

theorem readable_cappedMembers {ms : List (String × Json)} (hms : haveExact ms = true) {level : Nat}
    (hlevel : level ≤ depthLimit) :
    readableMembers (cappedMembers level ms) = true ↔ level + depthMembers ms ≤ depthLimit := by
  cases ms with
  | nil => simpa [cappedMembers, readableMembers, depthMembers] using hlevel
  | cons m ms =>
    obtain ⟨k, j⟩ := m
    obtain ⟨hj, hms⟩ := Bool.and_eq_true_iff.1 hms
    rw [cappedMembers, readableMembers, depthMembers, Bool.and_eq_true_iff, readable_capped hj hlevel,
      readable_cappedMembers hms hlevel]
    omega

end

end DataModel.Json

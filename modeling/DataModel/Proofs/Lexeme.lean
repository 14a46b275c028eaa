import DataModel.Proofs.Numeral
import DataModel.Column.Kind
import DataModel.Sql.Piece

/-!
# Reading SQL text

The tokens that SQL text is made of: names between double quotes and texts between single quotes, in both of which a
quote is written twice and no other character means anything but itself; numbered parameters; words, signs, and the
marks that stand alone. What SQL would read by other rules is no token here: a comment, a quote that directly follows a
word, and a quotation without an end.
-/

namespace DataModel.Sql

/-- A token of SQL text. -/
inductive Lexeme where
  | name (s : String)
  | text (s : String)
  | param (number : Nat)
  | word (s : String)
  | sign (s : String)
  | mark (c : Char)
  /-- What is no token of these. -/
  | broken
deriving DecidableEq, Repr

/-- Whether a token is a word, a sign or a mark. -/
def Lexeme.isPlain : Lexeme → Bool
  | word _ | sign _ | mark _ => true
  | name _ | text _ | param _ | broken => false

namespace Scanner

def isBlank (c : Char) : Bool :=
  c = ' ' || c = '\t' || c = '\n' || c = '\r' || c = '\x0c'

/-- Whether a character is a token by itself. -/
def isMark (c : Char) : Bool :=
  c = '(' || c = ')' || c = '[' || c = ']' || c = ',' || c = '.' || c = ';'

def isLetter (c : Char) : Bool :=
  c.isAlphanum || c = '_' || 127 < c.toNat

def isQuote (c : Char) : Bool :=
  c = '"' || c = '\''

/-- What has been read of a token. Characters stand in reverse order. -/
inductive State where
  | between
  | word (read : List Char)
  | sign (read : List Char)
  | quoted (quote : Char) (read : List Char)
  /-- A quote in a quotation: its end, or the first of two. -/
  | closed (quote : Char) (read : List Char)
  | dollar
  | param (number : Nat)
  /-- What follows is read by rules that are not those of this reader. -/
  | lost
deriving DecidableEq, Repr

/-- Whether a sign goes on as a comment. -/
def opensComment (read : List Char) (c : Char) : Bool :=
  (read.head? = some '-' && c = '-') || (read.head? = some '/' && c = '*')

namespace State

/-- Whether what has been read ends before a character. -/
def ends (s : State) (c : Char) : Bool :=
  match s with
  | between => true
  | word _ | param _ => !(isLetter c || isQuote c || c = '$')
  | sign _ => isBlank c || isMark c || isLetter c || isQuote c || c = '$'
  | closed quote _ => c ≠ quote
  | quoted _ _ | dollar | lost => false

/-- What has been read with one more digit. -/
def counted (number : Nat) (c : Char) : State :=
  match Numeral.digit? c with
  | some d => param (10 * number + d)
  | none => lost

/-- What has been read with a character before which it does not end. -/
def further (s : State) (c : Char) : State :=
  match s with
  | word read => if isLetter c then word (c :: read) else lost
  | sign read => if opensComment read c then lost else sign (c :: read)
  | quoted quote read => if c = quote then closed quote read else quoted quote (c :: read)
  | closed quote read => quoted quote (c :: read)
  | dollar => counted 0 c
  | param number => counted number c
  | between | lost => lost

/-- The token that has been read when nothing follows. -/
def ended : State → List Lexeme
  | between => []
  | word read => [.word (String.ofList read.reverse)]
  | sign read => [.sign (String.ofList read.reverse)]
  | closed quote read =>
    [if quote = '"' then .name (String.ofList read.reverse) else .text (String.ofList read.reverse)]
  | param number => [.param number]
  | quoted _ _ | dollar | lost => [.broken]

end State

/-- What a character begins between two tokens. -/
def begun (c : Char) : List Lexeme × State :=
  if isBlank c then ([], .between)
  else if isMark c then ([.mark c], .between)
  else if isQuote c then ([], .quoted c [])
  else if c = '$' then ([], .dollar)
  else if isLetter c then ([], .word [c])
  else ([], .sign [c])

/-- Read one more character: the tokens that are complete, and what has been read of the next one. -/
def next (s : State) (c : Char) : List Lexeme × State :=
  if s.ends c then (s.ended ++ (begun c).1, (begun c).2) else ([], s.further c)

/-- The tokens of a text of which something has been read already. -/
def scan : State → List Char → List Lexeme
  | s, [] => s.ended
  | s, c :: cs => (next s c).1 ++ scan (next s c).2 cs

/-- What has been read of a token at the end of a text. -/
def after (s : State) (cs : List Char) : State :=
  cs.foldl (fun s c => (next s c).2) s

end Scanner

/-- The tokens of a text. -/
def lexemes (text : String) : List Lexeme :=
  Scanner.scan .between text.toList

example : lexemes "SELECT \"a\"\"b\"::text, 'it''s' FROM \"t\" WHERE x<>$12" =
    [.word "SELECT", .name "a\"b", .sign "::", .word "text", .mark ',', .text "it's", .word "FROM", .name "t",
      .word "WHERE", .word "x", .sign "<>", .param 12] := by
  decide

namespace Scanner

variable {s : State} {c : Char} {cs rest : List Char}

theorem scan_append (h : ∀ c ∈ rest.head?, (after s cs).ends c = true) :
    scan s (cs ++ rest) = scan s cs ++ scan .between rest := by
  induction cs generalizing s with
  | nil =>
    cases rest with
    | nil => simp [scan, State.ended]
    | cons c rest =>
      have hc : s.ends c = true := h c rfl
      have hnext : next s c = (s.ended ++ (begun c).1, (begun c).2) := if_pos hc
      show (next s c).1 ++ scan (next s c).2 rest = s.ended ++ ((begun c).1 ++ scan (begun c).2 rest)
      rw [hnext, List.append_assoc]
  | cons c cs ih =>
    have hrest := ih (s := (next s c).2) h
    rw [List.cons_append, scan, scan, hrest, List.append_assoc]

theorem after_append (s : State) (cs ds : List Char) : after s (cs ++ ds) = after (after s cs) ds :=
  List.foldl_append

/-- Inside a quotation a doubled quote stands for one. -/
theorem scan_doubling (quote : Char) (cs read rest : List Char) :
    scan (.quoted quote read) (Segment.doubling quote cs ++ rest) = scan (.quoted quote (cs.reverse ++ read)) rest ∧
      after (.quoted quote read) (Segment.doubling quote cs) = .quoted quote (cs.reverse ++ read) := by
  induction cs generalizing read with
  | nil => exact ⟨rfl, rfl⟩
  | cons c cs ih =>
    have hrest := ih (c :: read)
    by_cases hc : c = quote
    · subst hc
      simpa [Segment.doubling, scan, after, next, State.ends, State.further] using hrest
    · simpa [Segment.doubling, scan, after, next, State.ends, State.further, hc] using hrest

/-- A quotation is read as what it quotes, whatever that is. -/
theorem scan_quoted {quote : Char} (hquote : isQuote quote = true) (cs : List Char) :
    scan .between (quote :: (Segment.doubling quote cs ++ [quote])) = State.ended (.closed quote cs.reverse) ∧
      after .between (quote :: (Segment.doubling quote cs ++ [quote])) = .closed quote cs.reverse := by
  have hbegun : next .between quote = ([], .quoted quote []) := by
    rcases (by simpa [isQuote] using hquote : quote = '"' ∨ quote = '\'') with rfl | rfl <;> rfl
  obtain ⟨hscan, hafter⟩ := scan_doubling quote cs [] [quote]
  constructor
  · rw [scan, hbegun, hscan]
    simp [scan, next, State.ends, State.further]
  · have hstart : after .between (quote :: (Segment.doubling quote cs ++ [quote])) =
        after (after (.quoted quote []) (Segment.doubling quote cs)) [quote] := by
      rw [← after_append]
      simp [after, hbegun]
    rw [hstart, hafter]
    simp [after, next, State.ends, State.further]

/-- The digits of a parameter's number. -/
theorem scan_digits {cs : List Char} (h : ∀ c ∈ cs, c.isDigit = true) (number : Nat) (rest : List Char) :
    scan (.param number) (cs ++ rest) = scan (.param (Nat.ofDigitChars 10 cs number)) rest ∧
      after (.param number) cs = .param (Nat.ofDigitChars 10 cs number) := by
  induction cs generalizing number with
  | nil => exact ⟨rfl, rfl⟩
  | cons c cs ih =>
    rw [List.forall_mem_cons] at h
    have hletter : isLetter c = true := by simp [isLetter, Char.isAlphanum, h.1]
    have hnext : next (.param number) c = ([], .param (10 * number + (c.toNat - '0'.toNat))) := by
      simp [next, State.ends, State.further, State.counted, hletter, Numeral.digit?_of_isDigit h.1]
    have hrest := ih h.2 (10 * number + (c.toNat - '0'.toNat))
    simpa [scan, after, hnext, Nat.ofDigitChars_cons] using hrest

/-- A parameter without a cast is read as its number. -/
theorem scan_number (number : Nat) (rest : List Char) :
    scan .between ('$' :: (Numeral.ofNat number ++ rest)) = scan (.param number) rest ∧
      after .between ('$' :: Numeral.ofNat number) = .param number := by
  have hvalue : Nat.ofDigitChars 10 (Numeral.ofNat number) 0 = number := by simp [Numeral.ofNat]
  have hdigit : ∀ c ∈ Numeral.ofNat number, c.isDigit = true := fun c hc => Numeral.isDigit_of_mem_ofNat hc
  obtain ⟨hscan, hafter⟩ := scan_digits hdigit 0 rest
  rw [hvalue] at hscan hafter
  -- there is a first digit, and it has the same effect after a dollar as after the number zero
  cases hdigits : Numeral.ofNat number with
  | nil => exact absurd hdigits Nat.toDigits_ne_nil
  | cons c cs =>
    have hdigit : c.isDigit = true := Numeral.isDigit_of_mem_ofNat (hdigits ▸ List.mem_cons_self)
    have hletter : isLetter c = true := by simp [isLetter, Char.isAlphanum, hdigit]
    have hdollar : next .dollar c = next (.param 0) c := by
      simp [next, State.ends, State.further, hletter]
    rw [hdigits] at hscan hafter
    have hbegun : next .between '$' = ([], .dollar) := rfl
    constructor
    · rw [← hscan, scan, hbegun, List.cons_append, scan, hdollar]
      rfl
    · rw [← hafter]
      simp [after, hbegun, hdollar]

/-- Whether a character is neither part of a quotation, a parameter or a comment nor begins one. -/
def isPlain (c : Char) : Bool :=
  !(isQuote c || c = '$' || c = '-' || c = '/')

/-- Whether no quotation, parameter or comment has begun. -/
def State.isOpen : State → Bool
  | between | word _ => true
  | sign read => read.head? ≠ some '/'
  | quoted _ _ | closed _ _ | dollar | param _ | lost => false

theorem isPlain_iff : isPlain c = true ↔ isQuote c = false ∧ c ≠ '$' ∧ c ≠ '-' ∧ c ≠ '/' := by
  simp [isPlain, and_assoc]

theorem begun_plain (hquote : isQuote c = false) (hdollar : c ≠ '$') (hslash : c ≠ '/') :
    (∀ l ∈ (begun c).1, l.isPlain = true) ∧ (begun c).2.isOpen = true := by
  unfold begun
  rw [hquote, if_neg Bool.false_ne_true, if_neg hdollar]
  split_ifs with hblank hmark hletter
  · exact ⟨nofun, rfl⟩
  · refine ⟨fun l hl => ?_, rfl⟩
    rw [List.mem_singleton.1 hl]
    rfl
  · exact ⟨nofun, rfl⟩
  · refine ⟨nofun, ?_⟩
    show decide (some c ≠ some '/') = true
    exact decide_eq_true fun hc => hslash (Option.some.inj hc)

/-- A plain text may begin with a minus sign. -/
theorem begun_first (hc : isPlain c = true ∨ c = '-') :
    (∀ l ∈ (begun c).1, l.isPlain = true) ∧ (begun c).2.isOpen = true := by
  rcases hc with hc | rfl
  · obtain ⟨hquote, hdollar, -, hslash⟩ := isPlain_iff.1 hc
    exact begun_plain hquote hdollar hslash
  · exact ⟨nofun, rfl⟩

theorem ended_plain (hs : s.isOpen = true) : ∀ l ∈ s.ended, l.isPlain = true := by
  intro l hl
  cases s with
  | between => exact absurd hl List.not_mem_nil
  | word read =>
    rw [List.mem_singleton.1 hl]
    rfl
  | sign read =>
    rw [List.mem_singleton.1 hl]
    rfl
  | _ => cases hs

/-- A plain character completes plain tokens and begins no other. -/
theorem next_plain (hs : s.isOpen = true) (hc : isPlain c = true) :
    (∀ l ∈ (next s c).1, l.isPlain = true) ∧ (next s c).2.isOpen = true := by
  obtain ⟨hquote, hdollar, hminus, hslash⟩ := isPlain_iff.1 hc
  obtain ⟨hplain, hopen⟩ := begun_plain hquote hdollar hslash
  unfold next
  split
  next hends =>
    refine ⟨fun l hl => ?_, hopen⟩
    rcases List.mem_append.1 hl with hl | hl
    · exact ended_plain hs l hl
    · exact hplain l hl
  next hends =>
    refine ⟨nofun, ?_⟩
    cases s with
    | between => exact absurd rfl hends
    | word read =>
      have hletter : isLetter c = true := by simpa [State.ends, hquote, hdollar] using hends
      simp [State.further, hletter, State.isOpen]
    | sign read =>
      have hcomment : opensComment read c = false := by
        have hhead : read.head? ≠ some '/' := of_decide_eq_true hs
        simp [opensComment, hminus, hhead]
      simp [State.further, hcomment, State.isOpen, hslash]
    | _ => cases hs

/-- Texts of words, signs and marks are read as such. -/
theorem plain_scan (hs : s.isOpen = true) (h : ∀ c ∈ cs, isPlain c = true) :
    (∀ l ∈ scan s cs, l.isPlain = true) ∧ (after s cs).isOpen = true := by
  induction cs generalizing s with
  | nil => exact ⟨ended_plain hs, hs⟩
  | cons c cs ih =>
    rw [List.forall_mem_cons] at h
    obtain ⟨hfirst, hopen⟩ := next_plain hs h.1
    obtain ⟨hrest, hafter⟩ := ih hopen h.2
    refine ⟨fun l hl => ?_, hafter⟩
    rcases List.mem_append.1 hl with hl | hl
    · exact hfirst l hl
    · exact hrest l hl

/-- Whether a character ends every word, sign and number. -/
def isBreak (c : Char) : Bool :=
  isBlank c || isMark c

/-- A blank or a mark is neither part of a word nor the beginning of anything. -/
theorem isBreak_spec (hc : isBreak c = true) :
    isLetter c = false ∧ isQuote c = false ∧ c ≠ '$' ∧ (begun c).2 = .between := by
  have hbreaks : ([' ', '\t', '\n', '\r', '\x0c', '(', ')', '[', ']', ',', '.', ';'].all fun c =>
      !isLetter c && !isQuote c && c ≠ '$' && (begun c).2 = .between) = true := by
    decide
  have hspec := List.all_eq_true.1 hbreaks c (by simpa [isBreak, isBlank, isMark, or_assoc] using hc)
  simpa [and_assoc] using hspec

theorem ends_of_break (hs : s.isOpen = true) (hc : isBreak c = true) : s.ends c = true := by
  obtain ⟨hletter, hquote, hdollar, -⟩ := isBreak_spec hc
  cases s with
  | between => rfl
  | word read => simp [State.ends, hletter, hquote, hdollar]
  | sign read =>
    have hbreak : isBlank c = true ∨ isMark c = true := by simpa [isBreak] using hc
    simp [State.ends, hbreak]
  | _ => cases hs

/-- The number of a parameter ends before a blank, a mark or a sign. -/
theorem param_ends (number : Nat) (hletter : isLetter c = false) (hquote : isQuote c = false) (hdollar : c ≠ '$') :
    (State.param number).ends c = true := by
  simp [State.ends, hletter, hquote, hdollar]

/-- Nothing is left to be read after a blank or a mark. -/
theorem after_break (hs : s.isOpen = true) (h : ∀ c ∈ cs, isPlain c = true) (hc : isBreak c = true) :
    after s (cs ++ [c]) = .between := by
  have hends : (after s cs).ends c = true := ends_of_break (plain_scan hs h).2 hc
  have hnext : next (after s cs) c = ((after s cs).ended ++ (begun c).1, (begun c).2) := if_pos hends
  obtain ⟨-, -, -, hbegun⟩ := isBreak_spec hc
  rw [after_append]
  show (next (after s cs) c).2 = .between
  rw [hnext]
  exact hbegun

theorem after_of_ends (h : s.ends c = true) (cs : List Char) : after s (c :: cs) = after .between (c :: cs) := by
  have hnext : next s c = (s.ended ++ (begun c).1, (begun c).2) := if_pos h
  show after (next s c).2 cs = after (begun c).2 cs
  rw [hnext]

end Scanner

/-- Whether a text is made of words, signs and marks. A minus sign is allowed in front only, so no comment begins. -/
def isPlainWord (w : String) : Bool :=
  match w.toList with
  | [] => false
  | c :: cs => (Scanner.isPlain c || c = '-') && cs.all Scanner.isPlain

/-- Whether nothing is left to be read at the end of a text. -/
def endsApart (w : String) : Bool :=
  w.toList.getLast?.any Scanner.isBreak

/-- Whether a text begins with a mark, or with a mark or a word after a blank. -/
def startsApart (w : String) : Bool :=
  match w.toList with
  | [] => false
  | c :: cs => Scanner.isMark c || (Scanner.isBlank c && cs.head?.any fun d => Scanner.isMark d || Scanner.isLetter d)

variable {w : String}

/-- Texts of words, signs and marks have only such tokens. -/
theorem lexemes_plain (h : isPlainWord w = true) :
    (∀ l ∈ lexemes w, l.isPlain = true) ∧ (Scanner.after .between w.toList).isOpen = true := by
  unfold isPlainWord at h
  unfold lexemes
  cases hw : w.toList with
  | nil =>
    rw [hw] at h
    cases h
  | cons c cs =>
    rw [hw] at h
    simp only [Bool.and_eq_true, Bool.or_eq_true, decide_eq_true_eq, List.all_eq_true] at h
    obtain ⟨hc, hcs⟩ := h
    obtain ⟨hplain, hopen⟩ := Scanner.begun_first hc
    obtain ⟨hrest, hafter⟩ := Scanner.plain_scan hopen hcs
    refine ⟨fun l hl => ?_, hafter⟩
    rcases List.mem_append.1 hl with hl | hl
    · exact hplain l hl
    · exact hrest l hl

/-- Nothing is left to be read after a word that ends with a blank or a mark. -/
theorem after_of_endsApart (h : isPlainWord w = true) (hend : endsApart w = true) :
    Scanner.after .between w.toList = .between := by
  obtain ⟨c, hlast, hc⟩ := (Option.any_eq_true _ _).1 hend
  obtain ⟨cs, hcs⟩ := List.getLast?_eq_some_iff.1 hlast
  unfold isPlainWord at h
  rw [hcs] at h ⊢
  cases cs with
  | nil =>
    obtain ⟨-, -, -, hbegun⟩ := Scanner.isBreak_spec hc
    exact hbegun
  | cons d ds =>
    simp only [List.cons_append, Bool.and_eq_true, Bool.or_eq_true, decide_eq_true_eq, List.all_eq_true,
      List.forall_mem_append] at h
    obtain ⟨hd, hds, -⟩ := h
    obtain ⟨-, hopen⟩ := Scanner.begun_first hd
    show Scanner.after (Scanner.begun d).2 (ds ++ [c]) = .between
    exact Scanner.after_break hopen hds hc

/-- The tokens of a cast. -/
def castLexemes : Option String → List Lexeme
  | none => []
  | some cast => lexemes ("::" ++ cast)

theorem isPlainWord_cast (k : Kind) : isPlainWord ("::" ++ k.cast) = true := by
  cases k <;> simp only [Kind.cast] <;> decide

theorem castLexemes_plain (kind : Option Kind) : ∀ l ∈ castLexemes (kind.map Kind.cast), l.isPlain = true := by
  cases kind with
  | none => exact nofun
  | some k => exact (lexemes_plain (isPlainWord_cast k)).1

/-- A parameter is read as its number and its cast, and ends before a blank or a mark. -/
theorem lexemes_placeholder (n : Nat) (kind : Option Kind) :
    lexemes (placeholder n (kind.map Kind.cast)) = .param n :: castLexemes (kind.map Kind.cast) ∧
      ∀ c, Scanner.isBreak c = true →
        (Scanner.after .between (placeholder n (kind.map Kind.cast)).toList).ends c = true := by
  obtain ⟨hscan, hafter⟩ := Scanner.scan_number n []
  rw [List.append_nil] at hscan
  cases kind with
  | none =>
    have htext : (placeholder n none).toList = '$' :: Numeral.ofNat n := by simp [placeholder, Numeral.natText]
    refine ⟨?_, fun c hc => ?_⟩
    · show Scanner.scan .between (placeholder n none).toList = _
      rw [htext, hscan]
      rfl
    · show (Scanner.after .between (placeholder n none).toList).ends c = true
      obtain ⟨hletter, hquote, hdollar, -⟩ := Scanner.isBreak_spec hc
      rw [htext, hafter]
      exact Scanner.param_ends n hletter hquote hdollar
  | some k =>
    have htext : (placeholder n (some k.cast)).toList = '$' :: Numeral.ofNat n ++ ("::" ++ k.cast).toList := by
      simp [placeholder, Numeral.natText]
    have hcolon : (Scanner.State.param n).ends ':' = true := Scanner.param_ends n rfl rfl (by decide)
    have hstart : ("::" ++ k.cast).toList = ':' :: (":" ++ k.cast).toList := by simp
    obtain ⟨-, hopen⟩ := lexemes_plain (isPlainWord_cast k)
    refine ⟨?_, fun c hc => ?_⟩
    · show Scanner.scan .between (placeholder n (some k.cast)).toList = _
      rw [htext, Scanner.scan_append, hscan]
      · rfl
      · rw [hafter, hstart]
        intro c hc
        rw [← Option.some.inj hc]
        exact hcolon
    · show (Scanner.after .between (placeholder n (some k.cast)).toList).ends c = true
      rw [htext, Scanner.after_append, hafter, hstart, Scanner.after_of_ends hcolon, ← hstart]
      exact Scanner.ends_of_break hopen hc

end DataModel.Sql

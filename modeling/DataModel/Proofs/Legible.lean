import DataModel.Proofs.Lexeme
import DataModel.Proofs.Token
import Mathlib.Data.List.Chain

/-!
# Statements that read as they are built

A statement is built of pieces and read as tokens. Where each piece ends before the next one begins
(`Sql.Legible`), the tokens of the text are those of the pieces, one after the other: a name is one token and
so is a literal, a parameter is its number with its cast, and a word is what it says.
-/

namespace DataModel.Sql

namespace Piece

/-- The text of a piece, whose parameter has the given number. -/
def text (n : Nat) : Piece → String
  | word w => w
  | name s => quotedName s
  | literal s => quotedText s
  | param _ cast => placeholder n cast

/-- How many parameters a piece has. -/
def width : Piece → Nat
  | param _ _ => 1
  | word _ | name _ | literal _ => 0

/-- The tokens of a piece, whose parameter has the given number. -/
def lexemes (n : Nat) : Piece → List Lexeme
  | word w => Sql.lexemes w
  | name s => [.name s]
  | literal s => [.text s]
  | param _ cast => .param n :: castLexemes cast

/-- Whether words are plain and casts are those of kinds. -/
def Sound : Piece → Prop
  | word w => isPlainWord w = true
  | param _ cast => ∃ kind : Option Kind, cast = kind.map Kind.cast
  | name _ | literal _ => True

/-- Whether one piece ends before another. -/
def fits : Piece → Piece → Bool
  | word v, word w => endsApart v || startsApart w
  | word v, _ => endsApart v
  | param _ _, word w => startsApart w
  | name _, word _ | literal _, word _ => true
  | _, _ => false

/-- Whether every piece ends before this one. -/
def isSoft : Piece → Bool
  | word w => startsApart w
  | name _ | literal _ | param _ _ => false

end Piece

/-- The tokens of a statement whose first parameter has the given number. -/
def Statement.lexemesFrom : Nat → Statement → List Lexeme
  | _, [] => []
  | n, p :: ps => p.lexemes n ++ lexemesFrom (n + p.width) ps

/-- Each piece of a statement ends before the next one. -/
structure Legible (s : Statement) : Prop where
  sound : ∀ p ∈ s, p.Sound
  chain : s.IsChain fun p q => p.fits q = true

/-- Whether every piece ends before a statement. -/
def Soft (s : Statement) : Prop :=
  ∀ p ∈ s.head?, p.isSoft = true

variable {s s' : Statement} {p q : Piece} {w : String}

theorem textFrom_cons (n : Nat) (p : Piece) (s : Statement) :
    Statement.textFrom n (p :: s) = p.text n ++ Statement.textFrom (n + p.width) s := by
  cases p <;> rfl

theorem quotedName_eq (s : String) :
    (quotedName s).toList = '"' :: (Segment.doubling '"' s.toList ++ ['"']) :=
  String.toList_ofList

theorem quotedText_eq (s : String) :
    (quotedText s).toList = '\'' :: (Segment.doubling '\'' s.toList ++ ['\'']) :=
  String.toList_ofList

/-- A piece is read as its tokens. -/
theorem lexemes_text (h : p.Sound) (n : Nat) : lexemes (p.text n) = p.lexemes n := by
  cases p with
  | word w => rfl
  | name s =>
    show Scanner.scan .between (quotedName s).toList = [.name s]
    rw [quotedName_eq, (Scanner.scan_quoted rfl s.toList).1]
    simp [Scanner.State.ended]
  | literal s =>
    show Scanner.scan .between (quotedText s).toList = [.text s]
    rw [quotedText_eq, (Scanner.scan_quoted rfl s.toList).1]
    simp [Scanner.State.ended]
  | param v cast =>
    obtain ⟨kind, rfl⟩ := h
    exact (lexemes_placeholder n kind).1

theorem isBreak_of_startsApart (h : startsApart w = true) : ∀ c ∈ w.toList.head?, Scanner.isBreak c = true := by
  intro c hc
  unfold startsApart at h
  cases hw : w.toList with
  | nil =>
    rw [hw] at hc
    cases hc
  | cons d ds =>
    rw [hw] at h hc
    obtain rfl := Option.some.inj hc
    show (Scanner.isBlank d || Scanner.isMark d) = true
    rcases Bool.or_eq_true_iff.1 h with h | h
    · rw [h, Bool.or_true]
    · rw [(Bool.and_eq_true_iff.1 h).1, Bool.true_or]

theorem isQuote_head (h : isPlainWord w = true) : ∀ c ∈ w.toList.head?, Scanner.isQuote c = false := by
  intro c hc
  unfold isPlainWord at h
  cases hw : w.toList with
  | nil =>
    rw [hw] at hc
    cases hc
  | cons d ds =>
    rw [hw] at h hc
    obtain rfl := Option.some.inj hc
    simp only [Bool.and_eq_true, Bool.or_eq_true, decide_eq_true_eq] at h
    rcases h.1 with h | rfl
    · exact (Scanner.isPlain_iff.1 h).1
    · rfl

theorem text_ne_nil (h : p.Sound) (n : Nat) : (p.text n).toList ≠ [] := by
  cases p with
  | word w =>
    intro hw
    have hplain : isPlainWord w = true := h
    unfold isPlainWord at hplain
    rw [show w.toList = [] from hw] at hplain
    cases hplain
  | name s =>
    show (quotedName s).toList ≠ []
    rw [quotedName_eq]
    exact List.cons_ne_nil _ _
  | literal s =>
    show (quotedText s).toList ≠ []
    rw [quotedText_eq]
    exact List.cons_ne_nil _ _
  | param v cast => cases cast <;> simp [Piece.text, placeholder]

/-- A quotation ends before whatever a word begins with. -/
theorem closed_ends {quote : Char} (hquote : Scanner.isQuote quote = true) (cs : List Char)
    (hw : isPlainWord w = true) :
    ∀ c ∈ w.toList.head?,
      (Scanner.after .between (quote :: (Segment.doubling quote cs ++ [quote]))).ends c = true := by
  intro c hc
  rw [(Scanner.scan_quoted hquote cs).2]
  refine decide_eq_true fun heq => ?_
  have hplain := isQuote_head hw c hc
  rw [heq, hquote] at hplain
  cases hplain

/-- What has been read of a piece ends before the next one. -/
theorem ends_of_fits (hp : p.Sound) (hq : q.Sound) (h : p.fits q = true) (n m : Nat) :
    ∀ c ∈ (q.text m).toList.head?, (Scanner.after .between (p.text n).toList).ends c = true := by
  intro c hc
  have hword : ∀ v, p = .word v → endsApart v = true →
      (Scanner.after .between (p.text n).toList).ends c = true := by
    rintro v rfl hv
    show (Scanner.after .between v.toList).ends c = true
    rw [after_of_endsApart hp hv]
    rfl
  cases p with
  | word v =>
    cases q with
    | word w =>
      rcases Bool.or_eq_true_iff.1 h with hv | hw
      · exact hword v rfl hv
      · exact Scanner.ends_of_break (lexemes_plain hp).2 (isBreak_of_startsApart hw c hc)
    | name s => exact hword v rfl h
    | literal s => exact hword v rfl h
    | param value cast => exact hword v rfl h
  | name s =>
    cases q with
    | word w =>
      show (Scanner.after .between (quotedName s).toList).ends c = true
      rw [quotedName_eq]
      exact closed_ends rfl s.toList hq c hc
    | _ => cases h
  | literal s =>
    cases q with
    | word w =>
      show (Scanner.after .between (quotedText s).toList).ends c = true
      rw [quotedText_eq]
      exact closed_ends rfl s.toList hq c hc
    | _ => cases h
  | param value cast =>
    obtain ⟨kind, rfl⟩ := hp
    cases q with
    | word w => exact (lexemes_placeholder n kind).2 c (isBreak_of_startsApart h c hc)
    | _ => cases h

/-- A legible statement is read as the tokens of its pieces. -/
theorem lexemes_textFrom (h : Legible s) (n : Nat) : lexemes (s.textFrom n) = s.lexemesFrom n := by
  induction s generalizing n with
  | nil => rfl
  | cons p ps ih =>
    have hp : p.Sound := h.sound p List.mem_cons_self
    obtain ⟨hfits, hchain⟩ := List.isChain_cons.1 h.chain
    have hrest : Legible ps := ⟨fun q hq => h.sound q (List.mem_cons_of_mem _ hq), hchain⟩
    have hends : ∀ c ∈ (Statement.textFrom (n + p.width) ps).toList.head?,
        (Scanner.after .between (p.text n).toList).ends c = true := by
      intro c hc
      cases ps with
      | nil => cases hc
      | cons q qs =>
        have hq : q.Sound := hrest.sound q List.mem_cons_self
        rw [textFrom_cons, String.toList_append, List.head?_append_of_ne_nil _ (text_ne_nil hq _)] at hc
        exact ends_of_fits hp hq (hfits q rfl) n _ c hc
    rw [textFrom_cons, lexemes, String.toList_append, Scanner.scan_append hends]
    show lexemes (p.text n) ++ lexemes (Statement.textFrom (n + p.width) ps) = _
    rw [lexemes_text hp, ih hrest]
    rfl

theorem legible_nil : Legible [] :=
  ⟨fun _ hp => absurd hp List.not_mem_nil, .nil⟩

theorem legible_cons (hp : p.Sound) (hfits : ∀ q ∈ s.head?, p.fits q = true) (h : Legible s) : Legible (p :: s) :=
  ⟨List.forall_mem_cons.2 ⟨hp, h.sound⟩, List.isChain_cons.2 ⟨hfits, h.chain⟩⟩

theorem legible_word (hw : isPlainWord w = true) (hend : endsApart w = true) (h : Legible s) :
    Legible (.word w :: s) := by
  refine legible_cons hw (fun q _ => ?_) h
  cases q with
  | word v => exact Bool.or_eq_true_iff.2 (Or.inl hend)
  | _ => exact hend

theorem legible_single (hp : p.Sound) : Legible [p] :=
  legible_cons hp nofun legible_nil

theorem legible_last (hw : isPlainWord w = true) : Legible [.word w] :=
  legible_single hw

theorem legible_name (x : String) (h : Legible (.word w :: s)) : Legible (.name x :: .word w :: s) :=
  legible_cons trivial (fun q hq => by rw [← Option.some.inj hq]; rfl) h

theorem legible_name_last (x : String) : Legible [.name x] :=
  legible_single trivial

theorem legible_literal (x : String) (h : Legible (.word w :: s)) : Legible (.literal x :: .word w :: s) :=
  legible_cons trivial (fun q hq => by rw [← Option.some.inj hq]; rfl) h

theorem legible_literal_last (x : String) : Legible [.literal x] :=
  legible_single trivial

theorem legible_param (t : TableSchema) (column : String) (value : Value) : Legible [param t column value] :=
  legible_single ⟨t.kind? column, rfl⟩

theorem legible_append (h : Legible s) (h' : Legible s') (hsoft : Soft s') : Legible (s ++ s') := by
  refine ⟨List.forall_mem_append.2 ⟨h.sound, h'.sound⟩, List.isChain_append.2 ⟨h.chain, h'.chain, ?_⟩⟩
  intro p _ q hq
  have hq' := hsoft q hq
  cases q with
  | word w => cases p <;> simp_all [Piece.fits, Piece.isSoft]
  | _ => cases hq'

theorem soft_word (hw : startsApart w = true) : Soft (.word w :: s) := by
  intro q hq
  rw [← Option.some.inj hq]
  exact hw

theorem soft_nil : Soft [] :=
  nofun

/-- Legible statements with a word between them. -/
theorem legible_joined {sep : String} (hsep : isPlainWord sep = true) (hstart : startsApart sep = true)
    (hend : endsApart sep = true) {parts : List Statement} (h : ∀ s ∈ parts, Legible s) :
    Legible (joined sep parts) := by
  fun_induction joined sep parts with
  | case1 => exact legible_nil
  | case2 s => exact h s List.mem_cons_self
  | case3 s t rest ih =>
    rw [List.forall_mem_cons] at h
    exact legible_append h.1 (legible_word hsep hend (ih h.2)) (soft_word hstart)

theorem legible_listed {α : Type} {f : α → Statement} {items : List α} (h : ∀ a ∈ items, Legible (f a)) :
    Legible (joined ", " (items.map f)) := by
  refine legible_joined (by decide) (by decide) (by decide) fun s hs => ?_
  obtain ⟨a, ha, rfl⟩ := List.mem_map.1 hs
  exact h a ha

theorem isPlain_of_isAlphanum {c : Char} (h : c.isAlphanum = true) : Scanner.isPlain c = true := by
  have hne : ∀ d : Char, d.isAlphanum = false → c ≠ d := by
    rintro d hd rfl
    rw [h] at hd
    cases hd
  have hquote : Scanner.isQuote c = false := by simp [Scanner.isQuote, hne '"' rfl, hne '\'' rfl]
  exact Scanner.isPlain_iff.2 ⟨hquote, hne '$' rfl, hne '-' rfl, hne '/' rfl⟩

theorem isPlainWord_of_cons {c : Char} {cs : List Char} (h : w.toList = c :: cs)
    (hc : Scanner.isPlain c = true ∨ c = '-') (hcs : ∀ c ∈ cs, Scanner.isPlain c = true) : isPlainWord w = true := by
  unfold isPlainWord
  rw [h]
  simpa [List.all_eq_true.2 hcs] using hc

theorem isPlainWord_append {v w : String} (hv : isPlainWord v = true) (hw : ∀ c ∈ w.toList, Scanner.isPlain c = true) :
    isPlainWord (v ++ w) = true := by
  unfold isPlainWord at hv ⊢
  rw [String.toList_append]
  cases hlist : v.toList with
  | nil =>
    rw [hlist] at hv
    cases hv
  | cons c cs =>
    rw [hlist] at hv
    obtain ⟨hc, hcs⟩ := Bool.and_eq_true_iff.1 hv
    refine Bool.and_eq_true_iff.2 ⟨hc, List.all_eq_true.2 fun d hd => ?_⟩
    rcases List.mem_append.1 hd with hd | hd
    · exact List.all_eq_true.1 hcs d hd
    · exact hw d hd

theorem startsApart_append {v : String} (hv : startsApart v = true) (w : String) : startsApart (v ++ w) = true := by
  unfold startsApart at hv ⊢
  rw [String.toList_append]
  cases hlist : v.toList with
  | nil =>
    rw [hlist] at hv
    cases hv
  | cons c cs =>
    rw [hlist] at hv
    refine Bool.or_eq_true_iff.2 ((Bool.or_eq_true_iff.1 hv).imp_right fun h => ?_)
    obtain ⟨hblank, hnext⟩ := Bool.and_eq_true_iff.1 h
    cases cs with
    | nil => cases hnext
    | cons d ds => exact Bool.and_eq_true_iff.2 ⟨hblank, hnext⟩

theorem endsApart_append {w : String} (v : String) (hw : endsApart w = true) : endsApart (v ++ w) = true := by
  obtain ⟨c, hlast, hc⟩ := (Option.any_eq_true _ _).1 hw
  obtain ⟨cs, hcs⟩ := List.getLast?_eq_some_iff.1 hlast
  refine (Option.any_eq_true _ _).2 ⟨c, List.getLast?_eq_some_iff.2 ⟨v.toList ++ cs, ?_⟩, hc⟩
  rw [String.toList_append, hcs, List.append_assoc]

theorem isPlain_natText {n : Nat} : ∀ c ∈ (Numeral.natText n).toList, Scanner.isPlain c = true := by
  intro c hc
  rw [Numeral.natText, String.toList_ofList] at hc
  refine isPlain_of_isAlphanum ?_
  rw [Char.isAlphanum, Numeral.isDigit_of_mem_ofNat hc, Bool.or_true]

end DataModel.Sql

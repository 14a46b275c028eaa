import DataModel.Proofs.Comparison
import Mathlib.Data.List.Forall2

/-!
# What a LIKE pattern matches

A text matches a pattern when it can be split (`Like.Splits`) into consecutive pieces, one for each character
of the pattern: any run for `%`, one character for `_`, and the character itself for every other one. The
matcher goes through both from the left and never gives up a run that once let the pattern up to the next run
fit. That this loses nothing is shown by looking at all places behind a run at once: what can be laid further
on in the text can also be laid where the matcher goes on.

It does lose something to the text itself. A `%` of the pattern that comes to a `%` of the text takes it as
any other character takes its own, and so stands for that one alone (`Like.Laid`). Up to this the matcher is
exact.
-/

namespace DataModel.Like

/-- Whether a character of a pattern stands for a piece of a text. -/
def StandsFor (d : Char) (piece : List Char) : Prop :=
  if d = '%' then True else if d = '_' then piece.length = 1 else piece = [d]

/-- Whether a text can be split into consecutive pieces that the characters of a pattern stand for in turn. -/
def Splits (text pattern : String) : Prop :=
  ∃ pieces : List (List Char), pieces.flatten = text.toList ∧ List.Forall₂ StandsFor pattern.toList pieces

/-- Whether a pattern can be laid over a text from its start to its end, when a `%` that comes to a `%` of the text
takes that one alone. -/
inductive Laid : List Char → List Char → Prop
  | nil : Laid [] []
  | one {d c : Char} {p text : List Char} (hd : d = '_' ∨ d = c) (h : Laid p text) : Laid (d :: p) (c :: text)
  | run {p text : List Char} (run : List Char) (hrun : (run ++ text).head? ≠ some '%') (h : Laid p text) :
      Laid ('%' :: p) (run ++ text)

/-- Whether a pattern can be laid over some end of a text. -/
def Somewhere (p text : List Char) : Prop :=
  ∃ rest, rest <:+ text ∧ Laid p rest

namespace Laid

variable {d c : Char} {p text rest : List Char}

theorem somewhere (h : Laid p text) : Somewhere p text :=
  ⟨text, List.suffix_rfl, h⟩

/-- A character that fits is taken. -/
theorem tail (h : Laid (d :: p) (c :: text)) (hd : d = '_' ∨ d = c) : Laid p text := by
  generalize hs : c :: text = s at h
  cases h with
  | one _ h =>
    cases hs
    exact h
  | run run hrun h =>
    -- a run does not begin where the `%` fits as a character
    have hc : c ≠ '%' := by simpa [← hs] using hrun
    rcases hd with hd | hd
    · exact absurd hd (by decide)
    · exact absurd hd.symm hc

/-- Behind a character that fits, all places further on are places behind it. -/
theorem somewhere_tail (h : Laid (d :: p) rest) (hrest : rest <:+ c :: text) (hd : d = '_' ∨ d = c) :
    Somewhere p text := by
  rcases List.suffix_cons_iff.1 hrest with rfl | hrest
  · exact (h.tail hd).somewhere
  · cases h with
    | one _ h => exact ⟨_, (List.suffix_cons _ _).trans hrest, h⟩
    | run run _ h => exact ⟨_, (List.suffix_append run _).trans hrest, h⟩

/-- Behind a run, the pattern goes on at some place further on. -/
theorem somewhere_run (h : Laid ('%' :: p) rest) (hrest : rest <:+ text) : Somewhere p text := by
  cases h with
  | one _ h => exact ⟨_, (List.suffix_cons _ _).trans hrest, h⟩
  | run run _ h => exact ⟨_, (List.suffix_append run _).trans hrest, h⟩

theorem nil_iff : Laid p [] ↔ p.all (· = '%') = true := by
  induction p with
  | nil => exact ⟨fun _ => rfl, fun _ => nil⟩
  | cons d p ih =>
    rw [List.all_cons, Bool.and_eq_true, decide_eq_true_iff, ← ih]
    constructor
    · intro h
      generalize hs : [] = s at h
      cases h with
      | one => cases hs
      | run run _ h =>
        obtain ⟨rfl, rfl⟩ := List.append_eq_nil_iff.1 hs.symm
        exact ⟨rfl, h⟩
    · rintro ⟨rfl, h⟩
      exact run [] nofun h

end Laid

/-- What laying a pattern at the start of a text says: whether it can be laid over the text, and that it can be laid
over no end of the text for which the matcher has no way left. -/
def Fit.Tells {p : List Char} (text : List Char) : Fit p → Prop
  | done b => (b = true → Laid p text) ∧ (Somewhere p text → b = true)
  | run rest _ left => (Somewhere rest left → Laid p text) ∧ (Somewhere p text → Somewhere rest left)
  | clash => ¬ Laid p text

theorem Fit.Tells.weaken {d c : Char} {p text : List Char} {f : Fit p} (h : f.Tells text) (hd : d = '_' ∨ d = c) :
    (f.weaken d).Tells (c :: text) := by
  have hback : Somewhere (d :: p) (c :: text) → Somewhere p text := fun ⟨_, hrest, hl⟩ => hl.somewhere_tail hrest hd
  cases f with
  | done b => exact ⟨fun hb => .one hd (h.1 hb), fun hs => h.2 (hback hs)⟩
  | run rest hshort left => exact ⟨fun hs => .one hd (h.1 hs), fun hs => h.2 (hback hs)⟩
  | clash => exact fun hl => h (hl.tail hd)

theorem tells_fit (p text : List Char) : (fit p text).Tells text := by
  induction p generalizing text with
  | nil =>
    cases text with
    | nil => exact ⟨fun _ => .nil, fun _ => rfl⟩
    | cons c text =>
      intro hl
      cases hl
  | cons d p ih =>
    cases text with
    | nil =>
      rw [fit]
      refine ⟨Laid.nil_iff.2, ?_⟩
      rintro ⟨rest, hrest, hl⟩
      rw [List.suffix_nil.1 hrest] at hl
      exact Laid.nil_iff.1 hl
    | cons c text =>
      rw [fit]
      by_cases hd : d = '_' ∨ d = c
      · rw [if_pos hd]
        exact (ih text).weaken hd
      · rw [if_neg hd]
        by_cases hp : d = '%'
        · subst hp
          rw [if_pos rfl]
          constructor
          · rintro ⟨rest, ⟨run, hrun⟩, hl⟩
            rw [← hrun]
            apply Laid.run run _ hl
            rw [hrun, List.head?_cons]
            intro hc
            exact hd (Or.inr (Option.some.inj hc).symm)
          · rintro ⟨rest, hrest, hl⟩
            exact hl.somewhere_run hrest
        · rw [if_neg hp]
          intro hl
          generalize hs : c :: text = s at hl
          cases hl with
          | one hone =>
            cases hs
            exact hd hone
          | run => exact hp rfl

/-- After a run the matcher finds a place where the rest of the pattern can be laid, if there is one. -/
theorem afterRun_iff (p text : List Char) : afterRun p text = true ↔ Somewhere p text := by
  induction p, text using afterRun.induct with
  | case1 p text b hfit =>
    have htells := hfit ▸ tells_fit p text
    rw [afterRun.eq_def, hfit]
    exact ⟨fun hb => (htells.1 hb).somewhere, htells.2⟩
  | case2 p text rest hshort left hfit ih =>
    have htells := hfit ▸ tells_fit p text
    rw [afterRun.eq_def, hfit]
    exact ih.trans ⟨fun hs => (htells.1 hs).somewhere, htells.2⟩
  | case3 p hfit =>
    -- at the end of the text no character clashes
    cases p <;> cases hfit
  | case4 p c text hfit ih =>
    have htells := hfit ▸ tells_fit p (c :: text)
    rw [afterRun.eq_def, hfit]
    refine ih.trans ⟨fun ⟨rest, hrest, hl⟩ => ⟨rest, hrest.trans (List.suffix_cons c text), hl⟩, ?_⟩
    rintro ⟨rest, hrest, hl⟩
    rcases List.suffix_cons_iff.1 hrest with rfl | hrest
    · exact absurd hl htells
    · exact ⟨rest, hrest, hl⟩

/-- The matcher decides whether a pattern can be laid over a text. -/
theorem isMatch_iff_laid (text pattern : String) :
    isMatch text pattern = true ↔ Laid pattern.toList text.toList := by
  have htells := tells_fit pattern.toList text.toList
  rw [isMatch]
  cases hfit : fit pattern.toList text.toList with
  | done b =>
    rw [hfit] at htells
    exact ⟨htells.1, fun hl => htells.2 hl.somewhere⟩
  | run rest hshort left =>
    rw [hfit] at htells
    exact (afterRun_iff rest left).trans ⟨htells.1, fun hl => htells.2 hl.somewhere⟩
  | clash =>
    rw [hfit] at htells
    exact ⟨fun h => absurd h Bool.false_ne_true, fun hl => absurd hl htells⟩

namespace StandsFor

variable {d c : Char} {piece : List Char}

theorem run (piece : List Char) : StandsFor '%' piece := by
  simp [StandsFor]

theorem one (hd : d = '_' ∨ d = c) : StandsFor d [c] := by
  unfold StandsFor
  split
  · trivial
  split
  · rfl
  · rcases hd with hd | rfl
    · contradiction
    · rfl

theorem exists_eq (h : StandsFor d piece) (hd : d ≠ '%') : ∃ c, piece = [c] ∧ (d = '_' ∨ d = c) := by
  rw [StandsFor, if_neg hd] at h
  split at h
  next hany =>
    obtain ⟨c, rfl⟩ := List.length_eq_one_iff.1 h
    exact ⟨c, rfl, Or.inl hany⟩
  next => exact ⟨d, h, Or.inr rfl⟩

end StandsFor

/-- What a pattern can be laid over is split as the pattern says. -/
theorem Laid.exists_pieces {p text : List Char} (h : Laid p text) :
    ∃ pieces : List (List Char), pieces.flatten = text ∧ List.Forall₂ StandsFor p pieces := by
  induction h with
  | nil => exact ⟨[], rfl, .nil⟩
  | @one d c p text hd _ ih =>
    obtain ⟨pieces, rfl, hpieces⟩ := ih
    exact ⟨[c] :: pieces, rfl, .cons (.one hd) hpieces⟩
  | run run _ _ ih =>
    obtain ⟨pieces, rfl, hpieces⟩ := ih
    exact ⟨run :: pieces, rfl, .cons (.run run) hpieces⟩

/-- A text that is split as a pattern says can be laid over by it, unless both have a `%`. -/
theorem laid_of_pieces {p : List Char} {pieces : List (List Char)} (h : List.Forall₂ StandsFor p pieces)
    (hplain : '%' ∉ pieces.flatten ∨ '%' ∉ p) : Laid p pieces.flatten := by
  induction h with
  | nil => exact .nil
  | @cons d piece p pieces hd _ ih =>
    rw [List.flatten_cons, List.mem_append, List.mem_cons, not_or, not_or] at hplain
    have hrest := ih (hplain.imp And.right And.right)
    rw [List.flatten_cons]
    by_cases hp : d = '%'
    · subst hp
      refine .run piece ?_ hrest
      intro hhead
      have hmem := List.mem_append.1 (List.mem_of_mem_head? hhead)
      rcases hplain with hplain | hplain
      · exact hmem.elim hplain.1 hplain.2
      · exact hplain.1 rfl
    · obtain ⟨c, rfl, hc⟩ := hd.exists_eq hp
      exact .one hc hrest

/-- The matcher is exact up to a `%` that comes to a `%` of the text and takes that one alone. A text that it takes to
match does match; and it finds every match of a text or a pattern without a `%`. -/
theorem isMatch_exact (text pattern : String) :
    (isMatch text pattern = true ↔ Laid pattern.toList text.toList) ∧
      (isMatch text pattern = true → Splits text pattern) ∧
        ('%' ∉ text.toList ∨ '%' ∉ pattern.toList → (isMatch text pattern = true ↔ Splits text pattern)) := by
  have hsplits : isMatch text pattern = true → Splits text pattern := fun h =>
    ((isMatch_iff_laid text pattern).1 h).exists_pieces
  refine ⟨isMatch_iff_laid text pattern, hsplits, fun hplain => ⟨hsplits, ?_⟩⟩
  rintro ⟨pieces, htext, hpieces⟩
  rw [isMatch_iff_laid, ← htext]
  exact laid_of_pieces hpieces (htext ▸ hplain)

/-- The matcher finds the one place where what stands behind a run fits, and none in a text that is too short. -/
theorem place_behind_run_found : Splits "ab_abd" "%_ab_" ∧ ¬ Splits "ab_ab" "%_ab_" := by
  have hfound : isMatch "ab_abd" "%_ab_" = true := by simp [isMatch, fit, Fit.weaken, afterRun]
  have hshort : isMatch "ab_ab" "%_ab_" = false := by simp [isMatch, fit, Fit.weaken, afterRun]
  refine ⟨((isMatch_exact "ab_abd" "%_ab_").2.2 (Or.inl (by decide))).1 hfound, fun h => ?_⟩
  rw [((isMatch_exact "ab_ab" "%_ab_").2.2 (Or.inl (by decide))).2 h] at hshort
  cases hshort

/-- A text with a `%` may match by its pieces and not by the matcher. -/
theorem percent_in_text_taken_alone :
    ¬ ∀ text pattern, isMatch text pattern = true ↔ Splits text pattern := by
  intro h
  have hsplits : Splits "%a" "%" := ⟨[['%', 'a']], rfl, .cons (.run _) .nil⟩
  have hmatch : isMatch "%a" "%" = false := by decide
  rw [(h "%a" "%").2 hsplits] at hmatch
  cases hmatch

end DataModel.Like

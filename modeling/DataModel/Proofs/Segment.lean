import DataModel.Text.Segment
import Mathlib.Data.List.Basic

/-! To cut a text at a character and to join texts with it undo each other: what was cut is joined to what it was,
and texts without the character are found again in what they were joined to. -/

namespace DataModel.Segment

variable {sep : Char}

theorem cut_eq_splitOn (sep : Char) (cs : List Char) : cut sep cs = cs.splitOn sep := by
  induction cs with
  | nil => rfl
  | cons c cs ih =>
    rw [cut, List.splitOn_cons_eq_if_modifyHead, ← ih]
    refine if_congr beq_iff_eq.symm rfl ?_
    cases hcut : cut sep cs with
    | nil => exact absurd (ih.symm.trans hcut) (List.splitOn_ne_nil sep cs)
    | cons piece pieces => rfl

/-- The pieces before a separator and those after it. -/
theorem cut_append (cs ds : List Char) : cut sep (cs ++ sep :: ds) = cut sep cs ++ cut sep ds := by
  rw [cut_eq_splitOn, cut_eq_splitOn, cut_eq_splitOn]
  exact List.splitOn_append_cons_self cs ds

theorem cut_of_not_mem {cs : List Char} (h : sep ∉ cs) : cut sep cs = [cs] := by
  rw [cut_eq_splitOn]
  exact List.splitOn_eq_singleton h

theorem cut_ne_nil (sep : Char) (cs : List Char) : cut sep cs ≠ [] := by
  rw [cut_eq_splitOn]
  exact List.splitOn_ne_nil sep cs

/-- No piece has the separator in it. -/
theorem not_mem_of_mem_cut {cs piece : List Char} (h : piece ∈ cut sep cs) : sep ∉ piece := by
  induction cs generalizing piece with
  | nil =>
    rw [List.mem_singleton.1 h]
    exact List.not_mem_nil
  | cons c cs ih =>
    unfold cut at h
    split at h
    next hsep =>
      rcases List.mem_cons.1 h with rfl | h
      · exact List.not_mem_nil
      · exact ih h
    next hsep =>
      split at h
      next hnil => exact absurd hnil (cut_ne_nil sep cs)
      next first rest hcut =>
        rcases List.mem_cons.1 h with rfl | h
        · intro hmem
          rcases List.mem_cons.1 hmem with rfl | hmem
          · exact hsep rfl
          · exact ih (hcut ▸ List.mem_cons_self) hmem
        · exact ih (hcut ▸ List.mem_cons_of_mem _ h)

theorem toList_join (sep : String) (texts : List String) :
    (join sep texts).toList = sep.toList.intercalate (texts.map String.toList) := by
  induction texts with
  | nil => rfl
  | cons s texts ih =>
    cases texts with
    | nil => simp [join]
    | cons t texts =>
      rw [join, String.toList_append, String.toList_append, ih, List.map_cons, List.map_cons, List.map_cons,
        List.intercalate_cons_cons]

/-- What has been cut is joined to what it was. -/
theorem join_pieces (sep : Char) (text : String) : join (String.singleton sep) (pieces sep text) = text := by
  rw [← String.toList_inj, toList_join, pieces, List.map_map, String.toList_singleton]
  have hchars : String.toList ∘ String.ofList = id := funext fun _ => String.toList_ofList
  rw [hchars, List.map_id, cut_eq_splitOn]
  exact List.intercalate_splitOn sep

/-- Texts without the separator are found again. -/
theorem pieces_join {texts : List String} (hne : texts ≠ []) (h : ∀ s ∈ texts, sep ∉ s.toList) :
    pieces sep (join (String.singleton sep) texts) = texts := by
  have hcut : cut sep (join (String.singleton sep) texts).toList = texts.map String.toList := by
    rw [toList_join, String.toList_singleton, cut_eq_splitOn]
    refine List.splitOn_intercalate sep (fun cs hcs => ?_) (by simpa using hne)
    obtain ⟨s, hs, rfl⟩ := List.mem_map.1 hcs
    exact h s hs
  have htexts : String.ofList ∘ String.toList = id := funext fun _ => String.ofList_toList
  rw [pieces, hcut, List.map_map, htexts, List.map_id]

theorem pieces_append (text more : String) :
    pieces sep (text ++ String.singleton sep ++ more) = pieces sep text ++ pieces sep more := by
  have hchars : (text ++ String.singleton sep ++ more).toList = text.toList ++ sep :: more.toList := by simp
  rw [pieces, hchars, cut_append, List.map_append, pieces, pieces]

theorem pieces_of_not_mem {text : String} (h : sep ∉ text.toList) : pieces sep text = [text] := by
  rw [pieces, cut_of_not_mem h, List.map_singleton, String.ofList_toList]

theorem not_mem_of_mem_pieces {text piece : String} (h : piece ∈ pieces sep text) : sep ∉ piece.toList := by
  obtain ⟨cs, hcs, rfl⟩ := List.mem_map.1 h
  rw [String.toList_ofList]
  exact not_mem_of_mem_cut hcs

theorem pieces_ne_nil (sep : Char) (text : String) : pieces sep text ≠ [] :=
  mt List.map_eq_nil_iff.1 (cut_ne_nil sep text.toList)

/-- What is found after a head. -/
theorem after?_eq_some_iff {head cs rest : List Char} : after? head cs = some rest ↔ cs = head ++ rest := by
  induction head generalizing cs with
  | nil => rw [after?, Option.some.injEq, List.nil_append]
  | cons h head ih =>
    cases cs with
    | nil => simp [after?]
    | cons c cs =>
      rw [after?, List.cons_append, List.cons.injEq]
      split
      next heq => rw [ih, heq, eq_self, true_and]
      next hne => exact ⟨nofun, fun h => absurd h.1.symm hne⟩

end DataModel.Segment

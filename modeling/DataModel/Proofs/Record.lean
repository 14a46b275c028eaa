import DataModel.Query.Resolve
import Mathlib.Data.List.Nodup

/-! What is found under a key after a record was changed, and what is left of a record when some keys are taken
away. A row with some columns only is read like the row itself at those columns. -/

namespace DataModel

namespace Assoc

variable {α : Type}

/-- The pairs whose key is not among some. -/
def without (names : List String) (r : Assoc α) : Assoc α :=
  r.filter fun e => !names.contains e.1

@[simp] theorem get?_nil (key : String) : get? ([] : Assoc α) key = none := rfl

theorem get?_cons (k : String) (v : α) (r : Assoc α) (key : String) :
    get? ((k, v) :: r) key = if k = key then some v else get? r key := rfl

theorem get?_eq_none_iff {r : Assoc α} {key : String} : get? r key = none ↔ key ∉ keys r := by
  induction r with
  | nil => simp [keys]
  | cons e r ih =>
    obtain ⟨k, v⟩ := e
    rw [get?_cons]
    by_cases h : k = key
    · simp [keys, h]
    · rw [if_neg h, ih]
      simp [keys, Ne.symm h]

theorem mem_of_get? {r : Assoc α} {key : String} {v : α} (h : get? r key = some v) : (key, v) ∈ r := by
  induction r with
  | nil => simp at h
  | cons e r ih =>
    obtain ⟨k, w⟩ := e
    rw [get?_cons] at h
    by_cases hk : k = key
    · rw [if_pos hk] at h
      cases h
      simp [hk]
    · rw [if_neg hk] at h
      exact List.mem_cons_of_mem _ (ih h)

theorem get?_insert (r : Assoc α) (key other : String) (v : α) :
    get? (insert r key v) other = if key = other then some v else get? r other := by
  by_cases h : key = other
  · subst h
    rw [get?_insert_self, if_pos rfl]
  · rw [get?_insert_of_ne h, if_neg h]

theorem mem_keys_insert {r : Assoc α} {key other : String} {v : α} :
    other ∈ keys (insert r key v) ↔ other = key ∨ other ∈ keys r := by
  by_cases h : key ∈ keys r
  · rw [keys_insert_of_mem h]
    refine ⟨Or.inr, ?_⟩
    rintro (rfl | hr)
    · exact h
    · exact hr
  · rw [keys_insert_of_not_mem h, List.mem_append, List.mem_singleton, or_comm]

theorem mem_insert {r : Assoc α} {key : String} {v : α} {e : String × α} (h : e ∈ insert r key v) :
    e = (key, v) ∨ e ∈ r := by
  induction r with
  | nil => exact Or.inl (List.mem_singleton.1 h)
  | cons p r ih =>
    obtain ⟨k, w⟩ := p
    unfold insert at h
    split at h
    next hk =>
      rcases List.mem_cons.1 h with h | h
      · exact Or.inl (by rw [h, hk])
      · exact Or.inr (List.mem_cons_of_mem _ h)
    next =>
      rcases List.mem_cons.1 h with h | h
      · exact Or.inr (h ▸ List.mem_cons_self)
      · exact (ih h).imp_right (List.mem_cons_of_mem _)

/-- To put a value where it stands already changes nothing. -/
theorem insert_eq_self {r : Assoc α} {key : String} {v : α} (h : get? r key = some v) :
    insert r key v = r := by
  induction r with
  | nil => cases h
  | cons e r ih =>
    obtain ⟨k, w⟩ := e
    rw [get?_cons] at h
    unfold insert
    split at h
    next hk => rw [if_pos hk, Option.some.inj h]
    next hk => rw [if_neg hk, ih h]

theorem mem_of_mem_erase {r : Assoc α} {key : String} {e : String × α} (h : e ∈ erase r key) : e ∈ r := by
  induction r with
  | nil => exact h
  | cons p r ih =>
    obtain ⟨k, w⟩ := p
    unfold erase at h
    split at h
    · exact List.mem_cons_of_mem _ h
    · rcases List.mem_cons.1 h with h | h
      · exact h ▸ List.mem_cons_self
      · exact List.mem_cons_of_mem _ (ih h)

theorem get?_erase_of_ne {r : Assoc α} {key other : String} (h : key ≠ other) :
    get? (erase r key) other = get? r other := by
  induction r with
  | nil => rfl
  | cons e r ih =>
    obtain ⟨k, v⟩ := e
    rw [erase]
    split
    next hk => rw [get?_cons, if_neg (hk ▸ h)]
    next => rw [get?_cons, get?_cons, ih]

theorem keys_erase_sublist (r : Assoc α) (key : String) : (keys (erase r key)).Sublist (keys r) := by
  induction r with
  | nil => exact .slnil
  | cons e r ih =>
    obtain ⟨k, v⟩ := e
    unfold erase
    split
    · exact List.sublist_cons_self _ _
    · exact ih.cons_cons k

theorem Distinct.erase {r : Assoc α} (h : Distinct r) (key : String) : Distinct (erase r key) :=
  (keys_erase_sublist r key).nodup h

theorem Distinct.insert {r : Assoc α} (h : Distinct r) (key : String) (v : α) : Distinct (insert r key v) := by
  unfold Distinct
  by_cases hk : key ∈ keys r
  · rw [keys_insert_of_mem hk]
    exact h
  · rw [keys_insert_of_not_mem hk, List.nodup_append_comm, List.singleton_append]
    exact List.nodup_cons.2 ⟨hk, h⟩

/-- Where no key stands twice, every cell is found under its key. -/
theorem Distinct.get?_eq {r : Assoc α} (hr : Distinct r) {e : String × α} (he : e ∈ r) :
    get? r e.1 = some e.2 := by
  induction r with
  | nil => cases he
  | cons p r ih =>
    obtain ⟨hkey, hrest⟩ := List.nodup_cons.1 hr
    rcases List.mem_cons.1 he with rfl | he
    · exact if_pos rfl
    · have hne : p.1 ≠ e.1 := fun heq => hkey (heq ▸ List.mem_map_of_mem he)
      exact (if_neg hne).trans (ih hrest he)

/-- A key that is removed is gone, since it stood there once. -/
theorem Distinct.not_mem_keys_erase {r : Assoc α} (h : Distinct r) (key : String) : key ∉ keys (Assoc.erase r key) := by
  induction r with
  | nil => exact List.not_mem_nil
  | cons e r ih =>
    obtain ⟨k, v⟩ := e
    obtain ⟨hk, hr⟩ := List.nodup_cons.1 h
    unfold Assoc.erase
    split
    next heq => exact heq ▸ hk
    next hne => exact List.not_mem_cons_of_ne_of_not_mem (Ne.symm hne) (ih hr)

theorem erase_of_not_mem {r : Assoc α} {key : String} (h : key ∉ keys r) : Assoc.erase r key = r := by
  induction r with
  | nil => rfl
  | cons e r ih =>
    rw [keys, List.map_cons, List.mem_cons, not_or] at h
    rw [Assoc.erase, if_neg (Ne.symm h.1), ih h.2]

@[simp] theorem extend_nil (r : Assoc α) : extend r [] = r := rfl

theorem extend_cons (r : Assoc α) (key : String) (v : α) (pairs : List (String × α)) :
    extend r ((key, v) :: pairs) = extend (insert r key v) pairs := rfl

theorem mem_keys_extend {r : Assoc α} {pairs : List (String × α)} {key : String} :
    key ∈ keys (extend r pairs) ↔ key ∈ keys r ∨ key ∈ pairs.map Prod.fst := by
  induction pairs generalizing r with
  | nil => simp
  | cons e pairs ih =>
    obtain ⟨k, v⟩ := e
    rw [extend_cons, ih, mem_keys_insert, List.map_cons, List.mem_cons]
    tauto

/-- Pairs under keys that are there leave the keys as they are. -/
theorem keys_extend_of_mem {r : Assoc α} {pairs : List (String × α)} (h : ∀ key ∈ pairs.map Prod.fst, key ∈ keys r) :
    keys (extend r pairs) = keys r := by
  induction pairs generalizing r with
  | nil => rfl
  | cons e pairs ih =>
    obtain ⟨k, v⟩ := e
    rw [List.map_cons, List.forall_mem_cons] at h
    have hsame : keys (insert r k v) = keys r := keys_insert_of_mem h.1
    rw [extend_cons, ih (hsame.symm ▸ h.2), hsame]

theorem insert_of_not_mem {r : Assoc α} {key : String} {v : α} (h : key ∉ keys r) :
    insert r key v = r ++ [(key, v)] := by
  induction r with
  | nil => rfl
  | cons e r ih =>
    obtain ⟨k, w⟩ := e
    obtain ⟨hne, hr⟩ := List.ne_and_not_mem_of_not_mem_cons h
    rw [insert, if_neg (Ne.symm hne), ih hr]
    rfl

/-- Pairs under new keys stand behind the others, in their order. -/
theorem extend_of_nodup {r : Assoc α} {pairs : List (String × α)} (h : (keys r ++ pairs.map Prod.fst).Nodup) :
    extend r pairs = r ++ pairs := by
  induction pairs generalizing r with
  | nil => exact (List.append_nil _).symm
  | cons e pairs ih =>
    obtain ⟨k, v⟩ := e
    have hnew : k ∉ keys r := fun hin => (List.nodup_append.1 h).2.2 k hin k List.mem_cons_self rfl
    have hkeys : keys (insert r k v) = keys r ++ [k] := keys_insert_of_not_mem hnew
    rw [List.map_cons, List.append_cons] at h
    rw [extend_cons, ih (hkeys.symm ▸ h), insert_of_not_mem hnew]
    exact (List.append_cons _ _ _).symm

theorem keys_extend_of_nodup {r : Assoc α} {pairs : List (String × α)} (h : (keys r ++ pairs.map Prod.fst).Nodup) :
    keys (extend r pairs) = keys r ++ pairs.map Prod.fst := by
  rw [extend_of_nodup h, keys, List.map_append]
  rfl

/-- Pairs whose keys differ are not merged. -/
theorem ofPairs_eq_self {pairs : List (String × α)} (h : (pairs.map Prod.fst).Nodup) : ofPairs pairs = pairs :=
  extend_of_nodup h

theorem get?_insertSorted_self (r : Assoc α) (key : String) (v : α) : get? (insertSorted r key v) key = some v := by
  induction r with
  | nil => exact if_pos rfl
  | cons e r ih =>
    obtain ⟨k, w⟩ := e
    rw [insertSorted]
    split
    · exact if_pos rfl
    split
    next hk => rw [get?_cons, if_pos hk]
    next hk => rw [get?_cons, if_neg hk, ih]

theorem get?_insertSorted_of_ne {r : Assoc α} {key other : String} {v : α} (h : key ≠ other) :
    get? (insertSorted r key v) other = get? r other := by
  induction r with
  | nil => exact if_neg h
  | cons e r ih =>
    obtain ⟨k, w⟩ := e
    rw [insertSorted]
    split
    · exact if_neg h
    split
    next hk => rw [get?_cons, get?_cons, if_neg (hk ▸ h), if_neg (hk ▸ h)]
    next => rw [get?_cons, get?_cons, ih]

theorem mem_insertSorted {r : Assoc α} {key : String} {v : α} {e : String × α} (h : e ∈ insertSorted r key v) :
    e = (key, v) ∨ e ∈ r := by
  induction r with
  | nil => exact Or.inl (List.mem_singleton.1 h)
  | cons p r ih =>
    obtain ⟨k, w⟩ := p
    rw [insertSorted] at h
    split at h
    · exact List.mem_cons.1 h
    split at h
    next hk =>
      rcases List.mem_cons.1 h with h | h
      · exact Or.inl (by rw [h, hk])
      · exact Or.inr (List.mem_cons_of_mem _ h)
    next =>
      rcases List.mem_cons.1 h with h | h
      · exact Or.inr (h ▸ List.mem_cons_self)
      · exact (ih h).imp_right (List.mem_cons_of_mem _)

/-- Whether the keys stand in order. -/
def Sorted (r : Assoc α) : Prop :=
  (keys r).Pairwise (· < ·)

theorem Sorted.distinct {r : Assoc α} (h : Sorted r) : Distinct r :=
  List.Pairwise.imp (fun {a b} (hlt : a < b) (heq : a = b) => String.lt_irrefl b (heq ▸ hlt)) h

theorem Sorted.erase {r : Assoc α} (h : Sorted r) (key : String) : Sorted (Assoc.erase r key) :=
  List.Pairwise.sublist (keys_erase_sublist r key) h

theorem mem_keys_insertSorted {r : Assoc α} {key other : String} {v : α} :
    other ∈ keys (insertSorted r key v) ↔ other = key ∨ other ∈ keys r := by
  by_cases h : key = other
  · subst h
    have hself : key ∈ keys (insertSorted r key v) := by
      by_contra hnot
      rw [← get?_eq_none_iff, get?_insertSorted_self] at hnot
      cases hnot
    exact ⟨fun _ => Or.inl rfl, fun _ => hself⟩
  · rw [← not_iff_not, not_or, ← get?_eq_none_iff, ← get?_eq_none_iff, get?_insertSorted_of_ne h]
    exact ⟨fun hnone => ⟨Ne.symm h, hnone⟩, And.right⟩

theorem Sorted.insertSorted {r : Assoc α} (h : Sorted r) (key : String) (v : α) : Sorted (insertSorted r key v) := by
  induction r with
  | nil => exact List.pairwise_singleton _ _
  | cons e r ih =>
    obtain ⟨k, w⟩ := e
    obtain ⟨hk, hr⟩ := List.pairwise_cons.1 h
    rw [Assoc.insertSorted]
    split
    next hlt =>
      refine List.pairwise_cons.2 ⟨fun other hother => ?_, h⟩
      rcases List.mem_cons.1 hother with rfl | hother
      · exact hlt
      · exact String.lt_trans hlt (hk other hother)
    split
    next => exact h
    next hnlt hne =>
      have hlt : k < key := by
        by_contra hnot
        exact hne (String.le_antisymm (String.not_lt.1 hnlt) (String.not_lt.1 hnot))
      refine List.pairwise_cons.2 ⟨fun other hother => ?_, ih hr⟩
      rcases mem_keys_insertSorted.1 hother with rfl | hother
      · exact hlt
      · exact hk other hother

theorem insertSorted_of_forall_lt {r : Assoc α} {key : String} {v : α} (h : ∀ k ∈ keys r, k < key) :
    insertSorted r key v = r ++ [(key, v)] := by
  induction r with
  | nil => rfl
  | cons e r ih =>
    obtain ⟨k, w⟩ := e
    obtain ⟨hk, hr⟩ := List.forall_mem_cons.1 h
    have hne : k ≠ key := fun heq => String.lt_irrefl key (heq ▸ hk)
    rw [insertSorted, if_neg (String.lt_asymm hk), if_neg hne, ih hr]
    rfl

/-- Pairs in the order of their keys stay as they are. -/
theorem sortedByKey_eq_self {pairs : List (String × α)} (h : (pairs.map Prod.fst).Pairwise (· < ·)) :
    sortedByKey pairs = pairs := by
  suffices hall : ∀ r : Assoc α, (keys r ++ pairs.map Prod.fst).Pairwise (· < ·) →
      pairs.foldl (fun acc p => insertSorted acc p.1 p.2) r = r ++ pairs from hall [] h
  intro r hr
  clear h
  induction pairs generalizing r with
  | nil => exact (List.append_nil _).symm
  | cons e pairs ih =>
    have hlast : ∀ k ∈ keys r, k < e.1 := fun k hk => (List.pairwise_append.1 hr).2.2 k hk e.1 List.mem_cons_self
    have hnext : (keys (r ++ [e]) ++ pairs.map Prod.fst).Pairwise (· < ·) := by
      rw [keys, List.map_append, List.append_assoc]
      exact hr
    rw [List.foldl_cons, insertSorted_of_forall_lt hlast, ih _ hnext, List.append_assoc]
    rfl

theorem get?_extend_of_not_mem {r : Assoc α} {pairs : List (String × α)} {key : String}
    (h : key ∉ pairs.map Prod.fst) : get? (extend r pairs) key = get? r key := by
  induction pairs generalizing r with
  | nil => rfl
  | cons e pairs ih =>
    obtain ⟨k, v⟩ := e
    rw [List.map_cons, List.mem_cons, not_or] at h
    rw [extend_cons, ih h.2, get?_insert_of_ne (Ne.symm h.1)]

/-- When no key stands twice among the pairs, each value is found under its key. -/
theorem get?_extend_of_mem {r : Assoc α} {pairs : List (String × α)} {key : String} {v : α}
    (hd : (pairs.map Prod.fst).Nodup) (h : (key, v) ∈ pairs) : get? (extend r pairs) key = some v := by
  induction pairs generalizing r with
  | nil => simp at h
  | cons e pairs ih =>
    obtain ⟨k, w⟩ := e
    rw [List.map_cons, List.nodup_cons] at hd
    rw [extend_cons]
    rcases List.mem_cons.1 h with h | h
    · cases h
      rw [get?_extend_of_not_mem hd.1, get?_insert_self]
    · exact ih hd.2 h

/-- The last pair under a key is the one that is found, and without one the old value stays. -/
theorem get?_extend (r : Assoc α) (pairs : List (String × α)) (key : String) :
    get? (extend r pairs) key =
      ((pairs.reverse.find? fun e => e.1 = key).map Prod.snd).or (get? r key) := by
  induction pairs generalizing r with
  | nil => rfl
  | cons e pairs ih =>
    obtain ⟨k, v⟩ := e
    rw [extend_cons, ih, List.reverse_cons, List.find?_append, get?_insert]
    cases pairs.reverse.find? fun e => e.1 = key with
    | some e => rfl
    | none => by_cases h : k = key <;> simp [h]

/-- When no key stands twice among the pairs, a key has its value there, or else the old one. -/
theorem get?_extend_of_distinct {pairs : Assoc α} (hd : Distinct pairs) (r : Assoc α) (key : String) :
    get? (extend r pairs) key = (get? pairs key).or (get? r key) := by
  cases hpairs : get? pairs key with
  | none => rw [get?_extend_of_not_mem (get?_eq_none_iff.1 hpairs), Option.none_or]
  | some v => rw [get?_extend_of_mem hd (mem_of_get? hpairs), Option.some_or]

/-- Where the names of items differ, the value of an item that has one is found under its name. -/
theorem get?_ofPairs_filterMap {β : Type} {items : List β} {name : β → String} {value : β → Option α}
    (hnames : (items.map name).Nodup) {b : β} (hb : b ∈ items) :
    get? (ofPairs (items.filterMap fun a => (value a).map fun v => (name a, v))) (name b) = value b := by
  have hsub : ((items.filterMap fun a => (value a).map fun v => (name a, v)).map Prod.fst).Sublist
      (items.map name) := by
    clear hnames hb
    induction items with
    | nil => exact .slnil
    | cons a items ih =>
      rw [List.filterMap_cons]
      cases value a with
      | none => exact ih.cons _
      | some v => exact ih.cons_cons _
  cases hvalue : value b with
  | some v => exact get?_extend_of_mem (hsub.nodup hnames) (List.mem_filterMap.2 ⟨b, hb, by rw [hvalue]; rfl⟩)
  | none =>
    refine get?_extend_of_not_mem fun hin => ?_
    obtain ⟨e, he, hname⟩ := List.mem_map.1 hin
    obtain ⟨a, ha, hpair⟩ := List.mem_filterMap.1 he
    obtain ⟨v, hv, rfl⟩ := Option.map_eq_some_iff.1 hpair
    rw [List.inj_on_of_nodup_map hnames ha hb hname, hvalue] at hv
    cases hv

theorem without_insert {names : List String} {key : String} (h : key ∈ names) (r : Assoc α) (v : α) :
    without names (insert r key v) = without names r := by
  induction r with
  | nil => simp [insert, without, h]
  | cons e r ih =>
    obtain ⟨k, w⟩ := e
    by_cases hk : k = key
    · subst hk
      simp [insert, without, h]
    · simp only [insert, if_neg hk]
      simp only [without, List.filter_cons] at ih ⊢
      rw [ih]

theorem without_extend {names : List String} (r : Assoc α) {pairs : List (String × α)}
    (h : ∀ e ∈ pairs, e.1 ∈ names) : without names (extend r pairs) = without names r := by
  induction pairs generalizing r with
  | nil => rfl
  | cons e pairs ih =>
    obtain ⟨k, v⟩ := e
    rw [extend_cons, ih _ fun e he => h e (List.mem_cons_of_mem _ he),
      without_insert (h (k, v) List.mem_cons_self)]

theorem without_eq_self {names : List String} {r : Assoc α} (h : ∀ key ∈ keys r, key ∉ names) :
    without names r = r := by
  refine List.filter_eq_self.2 fun e he => ?_
  have hn : e.1 ∉ names := h e.1 (List.mem_map_of_mem he)
  simpa using hn

theorem get?_extend_map (r : Assoc α) (f : String → α) (columns : List String) (key : String) :
    get? (extend r (columns.map fun c => (c, f c))) key =
      if key ∈ columns then some (f key) else get? r key := by
  induction columns generalizing r with
  | nil => simp
  | cons c columns ih =>
    rw [List.map_cons, extend_cons, ih, get?_insert]
    by_cases h : c = key
    · subst h; simp
    · simp [h, Ne.symm h]

theorem get?_ofPairs_map (f : String → α) (columns : List String) (key : String) :
    get? (ofPairs (columns.map fun c => (c, f c))) key =
      if key ∈ columns then some (f key) else none :=
  get?_extend_map [] f columns key

theorem keys_ofPairs_map (f : String → α) {columns : List String} (h : columns.Nodup) :
    keys (ofPairs (columns.map fun c => (c, f c))) = columns := by
  have hnames : (columns.map fun c => (c, f c)).map Prod.fst = columns := by
    rw [List.map_map]
    exact List.map_id columns
  have hkeys := keys_extend_of_nodup (r := []) (hnames.symm ▸ h)
  rwa [hnames] at hkeys

theorem keys_ofPairs_map_subset (f : String → α) {columns : List String} {key : String}
    (h : key ∈ keys (ofPairs (columns.map fun c => (c, f c)))) : key ∈ columns := by
  by_contra hc
  have hn := get?_ofPairs_map f columns key
  rw [if_neg hc, get?_eq_none_iff] at hn
  exact hn h

end Assoc

namespace Record

@[simp] theorem isNull_cell (r : Record) (column : String) : (r.cell column).isNull = r.isNullAt column := by
  unfold cell isNullAt
  cases r.get? column <;> rfl

theorem get?_eq_some_cell {r : Record} {column : String} (h : column ∈ r.keys) :
    r.get? column = some (r.cell column) := by
  cases hcell : r.get? column with
  | none => exact absurd h (Assoc.get?_eq_none_iff.1 hcell)
  | some v => rw [cell, hcell, Option.getD_some]

theorem get?_of_cell_ne_null {r : Record} {column : String} (h : r.cell column ≠ .null) :
    r.get? column = some (r.cell column) := by
  cases hv : r.get? column with
  | none => exact absurd (by rw [cell, hv]; rfl) h
  | some v => rw [cell, hv, Option.getD_some]

theorem cell_congr {r s : Record} {column : String} (h : r.get? column = s.get? column) :
    r.cell column = s.cell column := by
  rw [cell, h, cell]

end Record

namespace Stitch

/-- A missing cell has no key, as a null cell has none. -/
theorem keyAt_eq (column : String) (row : Record) : keyAt column row = (row.cell column).key := by
  unfold keyAt Record.cell
  cases row.get? column <;> rfl

end Stitch

namespace Table

theorem keyAt_eq (column : String) (row : Record) : keyAt column row = (row.cell column).key :=
  Stitch.keyAt_eq column row

theorem get?_project (columns : List String) (row : Record) (c : String) :
    (project columns row).get? c =
      if columns = [] then row.get? c else if c ∈ columns then some (row.cell c) else none := by
  unfold project
  cases columns with
  | nil => rfl
  | cons d columns => exact Assoc.get?_ofPairs_map row.cell (d :: columns) c

theorem cell_project {columns : List String} {c : String} (h : columns = [] ∨ c ∈ columns)
    (row : Record) : (project columns row).cell c = row.cell c := by
  rw [Record.cell, get?_project]
  by_cases hc : columns = []
  · rw [if_pos hc]; rfl
  · rw [if_neg hc, if_pos (h.resolve_left hc)]; rfl

/-- A projected row has cells under the columns asked for, or under those of the row itself. -/
theorem mem_keys_project {columns : List String} {row : Record} {c : String}
    (h : c ∈ (project columns row).keys) : c ∈ columns ∨ columns = [] ∧ c ∈ row.keys := by
  unfold project at h
  cases columns with
  | nil => exact Or.inr ⟨rfl, h⟩
  | cons d columns => exact Or.inl (Assoc.keys_ofPairs_map_subset row.cell h)

end Table

end DataModel

import DataModel.Proofs.Record

namespace DataModel.Assoc

variable {α β : Type} {pairs : List (String × α)}

theorem sorted_foldl_insertSorted {r : Assoc α} (h : Sorted r) (pairs : List (String × α)) :
    Sorted (pairs.foldl (fun acc p => insertSorted acc p.1 p.2) r) := by
  induction pairs generalizing r with
  | nil => exact h
  | cons e pairs ih => exact ih (h.insertSorted e.1 e.2)

theorem sorted_sortedByKey (pairs : List (String × α)) : Sorted (sortedByKey pairs) :=
  sorted_foldl_insertSorted (r := []) List.Pairwise.nil pairs

theorem mem_keys_sortedByKey {key : String} : key ∈ keys (sortedByKey pairs) ↔ key ∈ pairs.map Prod.fst := by
  suffices hall : ∀ r : Assoc α, key ∈ keys (pairs.foldl (fun acc p => insertSorted acc p.1 p.2) r) ↔
      key ∈ keys r ∨ key ∈ pairs.map Prod.fst from
    (hall []).trans (or_iff_right List.not_mem_nil)
  induction pairs with
  | nil => exact fun r => (or_iff_left List.not_mem_nil).symm
  | cons e pairs ih =>
    intro r
    rw [List.foldl_cons, ih, mem_keys_insertSorted, List.map_cons, List.mem_cons, or_assoc, or_left_comm]

theorem perm_insertSorted {r : Assoc α} {key : String} (h : key ∉ keys r) (v : α) :
    (insertSorted r key v).Perm (r ++ [(key, v)]) := by
  induction r with
  | nil => exact List.Perm.refl _
  | cons e r ih =>
    obtain ⟨k, w⟩ := e
    have hne : k ≠ key := fun he => h (he ▸ List.mem_cons_self)
    have hrest : key ∉ keys r := fun hmem => h (List.mem_cons_of_mem _ hmem)
    rw [insertSorted, if_neg hne]
    split
    next => exact (List.perm_append_singleton (key, v) ((k, w) :: r)).symm
    next => exact (ih hrest).cons (k, w)

/-- Pairs whose keys differ are only rearranged. -/
theorem perm_sortedByKey (h : (pairs.map Prod.fst).Nodup) : (sortedByKey pairs).Perm pairs := by
  suffices hall : ∀ r : Assoc α, (keys r ++ pairs.map Prod.fst).Nodup →
      (pairs.foldl (fun acc p => insertSorted acc p.1 p.2) r).Perm (r ++ pairs) from hall [] h
  clear h
  induction pairs with
  | nil => exact fun r _ => by rw [List.append_nil]; exact List.Perm.refl r
  | cons e pairs ih =>
    intro r hr
    have hnew : e.1 ∉ keys r := fun hmem => (List.nodup_append.1 hr).2.2 _ hmem _ List.mem_cons_self rfl
    have hkeys : (keys (insertSorted r e.1 e.2)).Perm (keys r ++ [e.1]) := by
      have hmap := (perm_insertSorted hnew e.2).map Prod.fst
      rwa [List.map_append] at hmap
    have hnext : (keys (insertSorted r e.1 e.2) ++ pairs.map Prod.fst).Nodup := by
      rw [(hkeys.append_right _).nodup_iff, List.append_assoc]
      exact hr
    have hstep := (perm_insertSorted hnew e.2).append_right pairs
    rw [List.append_assoc, List.singleton_append] at hstep
    exact (ih _ hnext).trans hstep

theorem insertSorted_mapped (f : α → β) (r : Assoc α) (key : String) (v : α) :
    insertSorted (r.map fun e => (e.1, f e.2)) key (f v) = (insertSorted r key v).map fun e => (e.1, f e.2) := by
  induction r with
  | nil => rfl
  | cons e r ih =>
    rw [List.map_cons, insertSorted, insertSorted]
    split
    next => rfl
    split
    next => rfl
    next => rw [ih, List.map_cons]

/-- The values have no part in the order. -/
theorem sortedByKey_mapped (f : α → β) (pairs : List (String × α)) :
    sortedByKey (pairs.map fun e => (e.1, f e.2)) = (sortedByKey pairs).map fun e => (e.1, f e.2) := by
  suffices hall : ∀ r : Assoc α, (pairs.map fun e => (e.1, f e.2)).foldl (fun acc p => insertSorted acc p.1 p.2)
      (r.map fun e => (e.1, f e.2)) =
        (pairs.foldl (fun acc p => insertSorted acc p.1 p.2) r).map fun e => (e.1, f e.2) from hall []
  induction pairs with
  | nil => exact fun _ => rfl
  | cons e pairs ih =>
    intro r
    rw [List.map_cons, List.foldl_cons, List.foldl_cons, insertSorted_mapped, ih]

end DataModel.Assoc

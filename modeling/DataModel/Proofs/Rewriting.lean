import DataModel.Proofs.Lookup

/-!
# Saves and changes touch what they count

A change of rows is prepared first: the primary key is taken out of the row, names that are no columns go, and a time of
writing may come. The rows that pass the filter beforehand are then counted and set, each in its place, in the columns of
the prepared row and no others, even where the filter reads what is set. So no change moves a row, and none gives it
another key. A row that is saved goes this way when it brings a key, whatever the key is, and else it is put behind all
rows that are there.
-/

namespace DataModel

namespace Record

/-- Whether rows come from others by setting cells in the chosen ones: there are as many, in the same order, the other
ones as they were, and the chosen ones with the given values and what they held besides. -/
structure Sets (chosen : Record → Bool) (values : Record) (rows rows' : List Record) : Prop where
  length : rows'.length = rows.length
  kept : ∀ (i : Nat) (row : Record), rows[i]? = some row → chosen row = false → rows'[i]? = some row
  set : ∀ (i : Nat) (row : Record), rows[i]? = some row → chosen row = true →
    ∃ row' : Record, rows'[i]? = some row' ∧ ∀ c, row'.get? c = (values.get? c).or (row.get? c)

variable {chosen : Record → Bool} {values : Record}

theorem sets_map (hvalues : Assoc.Distinct values) (rows : List Record) :
    Sets chosen values rows (rows.map fun row => if chosen row then row.extend values else row) where
  length := List.length_map _
  kept i row hrow hchosen := by
    rw [List.getElem?_map, hrow, Option.map_some, if_neg (by simp [hchosen])]
  set i row hrow hchosen := by
    refine ⟨row.extend values, ?_, fun c => Assoc.get?_extend_of_distinct hvalues row c⟩
    rw [List.getElem?_map, hrow, Option.map_some, if_pos hchosen]

theorem Sets.refl (chosen : Record → Bool) (rows : List Record) : Sets chosen [] rows rows where
  length := rfl
  kept _ _ hrow _ := hrow
  set _ row hrow _ := ⟨row, hrow, fun _ => Option.none_or.symm⟩

/-- A cell that is not among those that are set stays in every row. -/
theorem Sets.map_cell {rows rows' : List Record} (h : Sets chosen values rows rows') {column : String}
    (hcolumn : column ∉ values.keys) :
    rows'.map (fun row => row.cell column) = rows.map fun row => row.cell column := by
  refine List.ext_getElem? fun i => ?_
  rw [List.getElem?_map, List.getElem?_map]
  cases hrow : rows[i]? with
  | none =>
    have hlate : rows'[i]? = none := by
      rw [List.getElem?_eq_none_iff] at hrow ⊢
      rwa [h.length]
    rw [hlate]
  | some row =>
    cases hchosen : chosen row with
    | false => rw [h.kept i row hrow hchosen]
    | true =>
      obtain ⟨row', hrow', hcells⟩ := h.set i row hrow hchosen
      have hsame : row'.get? column = row.get? column := by
        rw [hcells, Assoc.get?_eq_none_iff.2 hcolumn, Option.none_or]
      rw [hrow', Option.map_some, Option.map_some, cell_congr hsame]

end Record

namespace Store

variable {s s' : Store} {name : String}

/-- To set cells of the rows that pass a filter is to count these rows and to set their cells. -/
theorem sets_of_update {filter : List Where} {values : Record} {n : Nat} (hvalues : Assoc.Distinct values)
    (h : s.update name filter values = .ok (n, s')) :
    n = ((s.rowsOf name).filter fun row => row.passes filter).length ∧
      Record.Sets (fun row => row.passes filter) values (s.rowsOf name) (s'.rowsOf name) := by
  refine ⟨?_, rowsOf_update h ▸ Record.sets_map hvalues _⟩
  obtain ⟨t, t', ht, hu, -⟩ := exists_put h
  rw [rowsOf, ht, (Table.update_eq_ok_iff.1 hu).2.2.1]
  rfl

/-- An operation that puts one table back leaves the other ones alone. -/
theorem get?_put_of_ne (s : Store) (t : Table) {other : String} (hother : other ≠ name) :
    (s.put name t).tables.get? other = s.tables.get? other :=
  Assoc.get?_insert_of_ne hother.symm

end Store

namespace Model

variable {m : Model} {sur : Surroundings} {row values : Record}

/-- A row that is prepared for a change has no columns but those of the given row, and the time of writing. -/
theorem not_mem_keys_of_prepare_update (h : m.prepare sur .update row = .ok values) {name : String}
    (hrow : name ∉ row.keys) (hname : name ≠ updatedAt) : name ∉ values.keys := by
  obtain ⟨-, hashed, hhashed, rfl⟩ := exists_of_prepare_update h
  have hmem : name ∉ hashed.keys := by
    rw [keys_hashed hhashed]
    exact fun hin => hrow (mem_keys_known hin)
  unfold stamped
  split
  · exact fun hin => (Assoc.mem_keys_insert.1 hin).elim hname hmem
  · exact hmem

theorem distinct_of_prepare_update (hrow : Assoc.Distinct row) (h : m.prepare sur .update row = .ok values) :
    Assoc.Distinct values := by
  obtain ⟨-, hashed, hhashed, rfl⟩ := exists_of_prepare_update h
  have hdistinct : Assoc.Distinct hashed := by
    rw [Assoc.Distinct, keys_hashed hhashed]
    exact distinct_known hrow
  unfold stamped
  split
  · exact hdistinct.insert _ _
  · exact hdistinct

end Model

namespace Handle

variable {h : Handle} {sur : Surroundings} {row : Record}

/-- What a change leaves behind that reports a number of rows: other tables and the keys of all rows as they were, and
the cells of the prepared row set in the rows that passed the filter, which are as many as reported; nothing is changed
or counted when nothing is left of the row. -/
structure Updated (h : Handle) (sur : Surroundings) (q : Descriptor) (row : Record) (n : Nat) (s' : Store) : Prop where
  others : ∀ other, other ≠ h.model.tableName → s'.tables.get? other = h.library.store.tables.get? other
  keys : (s'.rowsOf h.model.tableName).map (fun row => row.cell h.model.primaryKey) = h.keys
  rows : ∃ values, h.model.prepare sur .update (row.erase h.model.primaryKey) = .ok values ∧
    (values = [] → n = 0 ∧ s' = h.library.store) ∧
    (values ≠ [] → ∃ filter, h.model.filter q = .ok filter ∧
      n = (h.stored.filter fun row => row.passes filter).length ∧
      Record.Sets (fun row => row.passes filter) values h.stored (s'.rowsOf h.model.tableName))

section

variable (hrow : Assoc.Distinct row) (hkey : h.model.primaryKey ≠ updatedAt)
include hrow hkey

theorem updated_of_updateWhere {q : Descriptor} {n : Nat} {s' : Store}
    (hu : h.updateWhere sur q row = .ok (n, s')) : h.Updated sur q row n s' := by
  obtain ⟨values, hvalues, hu⟩ := bind_eq_ok_iff.1 hu
  have hno : h.model.primaryKey ∉ values.keys :=
    Model.not_mem_keys_of_prepare_update hvalues (hrow.not_mem_keys_erase _) hkey
  split at hu
  next hempty =>
    obtain ⟨rfl, rfl⟩ := Prod.mk.inj (ok_eq_ok_iff.1 hu)
    refine ⟨fun _ _ => rfl, rfl, values, hvalues, fun _ => ⟨rfl, rfl⟩, fun hne => ?_⟩
    exact absurd (List.isEmpty_iff.1 hempty) hne
  next hne =>
    obtain ⟨filter, hf, hu⟩ := bind_eq_ok_iff.1 hu
    have hstore := Library.ofStore_eq_ok_iff.1 hu
    obtain ⟨hcount, hsets⟩ := Store.sets_of_update (Model.distinct_of_prepare_update (hrow.erase _) hvalues) hstore
    obtain ⟨t, t', -, -, rfl⟩ := Store.exists_put hstore
    refine ⟨fun other hother => Store.get?_put_of_ne _ _ hother, hsets.map_cell hno, values, hvalues, ?_, ?_⟩
    · rintro rfl
      exact absurd rfl hne
    · exact fun _ => ⟨filter, hf, hcount, hsets⟩

end

/-- Whether a stored row has a key and is not deleted. -/
def isLiveAt (h : Handle) (key : Value) (row : Record) : Bool :=
  Operator.eq.holds (row.cell h.model.primaryKey) key && (!h.model.marksDeleted || row.isNullAt deletedAt)

/-- The filter of a write by key lets through the rows with the key that are not deleted. -/
theorem passes_byId {key : Value} {filter : List Where} (hf : h.model.filter (h.byId key .empty) = .ok filter) :
    (fun row : Record => row.passes filter) = h.isLiveAt key := by
  funext row
  have hkeyed : row.passes (h.byId key .empty).wheres =
      (Operator.eq.holds (row.cell h.model.primaryKey) key && true) :=
    Record.passes_narrowed row .empty h.model.primaryKey .eq key
  have hguards : h.model.guards (h.byId key .empty) = h.model.marksDeleted := Bool.and_true _
  rw [Model.passes_filter hf, Model.admits, hkeyed, hguards, Bool.and_true, isLiveAt]

/-- What a save leaves behind that reports a key: other tables as they were; when the row brings a primary key, it is
the one that is reported, and cells are set in the rows that have it and are not deleted; and when it brings none, one
row is put behind all others, and its key is the one that is reported. -/
structure Saved (h : Handle) (sur : Surroundings) (row : Record) (id : Value) (s' : Store) : Prop where
  others : ∀ other, other ≠ h.model.tableName → s'.tables.get? other = h.library.store.tables.get? other
  present : ∀ key, row.get? h.model.primaryKey = some key → id = key ∧
    (s'.rowsOf h.model.tableName).map (fun row => row.cell h.model.primaryKey) = h.keys ∧
    ∃ values, h.model.prepare sur .update (row.erase h.model.primaryKey) = .ok values ∧
      Record.Sets (h.isLiveAt key) values h.stored (s'.rowsOf h.model.tableName)
  absent : row.get? h.model.primaryKey = none → ∃ t added, h.library.store.tables.get? h.model.tableName = some t ∧
    s'.rowsOf h.model.tableName = h.stored ++ [added] ∧ ∀ key, t.primaryKey = some key → id = added.cell key

theorem saved_of_create {id : Value} {s' : Store} (hc : h.create sur row = .ok (id, s'))
    (hnone : row.get? h.model.primaryKey = none) : h.Saved sur row id s' := by
  obtain ⟨values, -, hc⟩ := bind_eq_ok_iff.1 hc
  obtain ⟨t, t', ht, hi, rfl⟩ := Store.exists_put (Library.ofStore_eq_ok_iff.1 hc)
  obtain ⟨added, next, -, -, hid, rfl⟩ := Table.exists_of_insert hi
  refine ⟨fun other hother => Store.get?_put_of_ne _ _ hother, fun key hsome => ?_, fun _ => ⟨t, added, ht, ?_, hid⟩⟩
  · rw [hnone] at hsome
    cases hsome
  · rw [Store.rowsOf_put, stored, Library.rowsOf_eq ht]

section

variable (hrow : Assoc.Distinct row) (hkey : h.model.primaryKey ≠ updatedAt)
include hrow hkey

theorem saved_of_save {id : Value} {s' : Store} (hs : h.save sur row = .ok (id, s')) : h.Saved sur row id s' := by
  unfold save at hs
  split at hs
  next key hsome =>
    obtain ⟨⟨n, s''⟩, hu, hs⟩ := bind_eq_ok_iff.1 hs
    obtain ⟨rfl, rfl⟩ := Prod.mk.inj (ok_eq_ok_iff.1 hs)
    obtain ⟨hothers, hkeys, values, hvalues, hempty, hset⟩ := updated_of_updateWhere (hrow.erase _) hkey hu
    -- the row has no key any more when the key is taken out for the second time
    rw [Assoc.erase_of_not_mem (hrow.not_mem_keys_erase _)] at hvalues
    refine ⟨hothers, fun key' hsome' => ?_, fun hnone => ?_⟩
    · obtain rfl := Option.some.inj (hsome.symm.trans hsome')
      refine ⟨rfl, hkeys, values, hvalues, ?_⟩
      by_cases hne : values = []
      · obtain ⟨-, rfl⟩ := hempty hne
        exact hne ▸ .refl _ _
      · obtain ⟨filter, hf, -, hsets⟩ := hset hne
        exact passes_byId hf ▸ hsets
    · rw [hsome] at hnone
      cases hnone
  next hnone => exact saved_of_create hs hnone

/-- A change reports how many rows passed the filter beforehand, and it sets the cells of the prepared row in these and
in no others. A save changes only rows with the key that the row brings, or else adds one row. -/
theorem counted_rows_touched :
    (∀ q n s', h.updateWhere sur q row = .ok (n, s') → h.Updated sur q row n s') ∧
      ∀ id s', h.save sur row = .ok (id, s') → h.Saved sur row id s' :=
  ⟨fun _ _ _ => updated_of_updateWhere hrow hkey, fun _ _ => saved_of_save hrow hkey⟩

end

end Handle

namespace Sample

/-- The entries after the first one is created. -/
def entryHandle : Handle :=
  ⟨⟨⟨[]⟩, entries⟩, entry⟩

/-- The request for the entries that are drafts. -/
def drafts : Descriptor :=
  { Descriptor.empty with wheres := [.compare "status" .eq (.text "draft")] }

/-- What finishes an entry. It also brings a key, and a name that is no column. -/
def finishing : Record :=
  [("id", .int 9), ("status", .text "final"), ("pages", .int 3)]

/-- The one draft is finished, though the filter reads the status that is set, and it keeps its key; to save the same
row changes nothing, since no entry has the key that it brings. -/
theorem draft_finished :
    Assoc.Distinct finishing ∧ entry.primaryKey ≠ updatedAt ∧
      (∃ s', entryHandle.updateWhere surroundings drafts finishing = .ok (1, s') ∧
        entryHandle.Updated surroundings drafts finishing 1 s' ∧
        (s'.rowsOf "entries").map (fun row => (row.cell "id", row.cell "status")) = [(.int 1, .text "final")]) ∧
      ∃ s', entryHandle.save surroundings finishing = .ok (.int 9, s') ∧
        entryHandle.Saved surroundings finishing (.int 9) s' ∧ s'.rowsOf "entries" = entries.rowsOf "entries" := by
  have hrow : Assoc.Distinct finishing := by
    unfold Assoc.Distinct
    decide
  have hkey : entry.primaryKey ≠ updatedAt := by decide
  obtain ⟨hupdate, hsave⟩ :=
    @Handle.counted_rows_touched entryHandle surroundings finishing hrow hkey
  exact ⟨hrow, hkey, ⟨_, rfl, hupdate drafts 1 _ rfl, rfl⟩, ⟨_, rfl, hsave (.int 9) _ rfl, rfl⟩⟩

end Sample

end DataModel

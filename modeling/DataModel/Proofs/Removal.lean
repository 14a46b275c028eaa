import DataModel.Proofs.Rewriting

/-!
# Deletes mark or remove what they count

The rows that are deleted are those that a request counts. Where the model marks deleted rows they stay in their places
and get the time of deletion, and elsewhere they go; either way the request counts none afterwards, and to delete again
does nothing. For marked rows this does not rest on the filter of the request, which may read the mark and be passed
again: it is the guard that keeps them out. Rows are destroyed by the filter of the request alone, marked ones included.
-/

namespace DataModel

namespace Model

variable {m : Model} {q : Descriptor}

/-- Where deleted rows are not marked, there are none to be included. -/
theorem filter_includingTrashed (hm : m.marksDeleted = false) : m.filter q.includingTrashed = m.filter q := by
  rw [filter, filter, hm, Bool.false_and, Bool.false_and]
  rfl

/-- A request that includes deleted rows admits what passes its own filter. -/
theorem admits_includingTrashed (m : Model) (q : Descriptor) (row : Record) :
    m.admits q.includingTrashed row = row.passes q.wheres := by
  have hguards : m.guards q.includingTrashed = false := Bool.and_false _
  rw [admits, hguards]
  exact Bool.and_true _

/-- A row that is marked as deleted is not admitted, whatever the filter says of it now. -/
theorem admits_extend_mark (hm : m.marksDeleted = true) (hq : q.withTrashed = false) (row : Record) (now : String) :
    m.admits q (row.extend [(deletedAt, .text now)]) = false := by
  have hmark : Record.isNullAt (row.extend [(deletedAt, .text now)]) deletedAt = false := by
    rw [Assoc.extend_cons, Assoc.extend_nil, Record.isNullAt, Assoc.get?_insert_self]
    rfl
  rw [admits, guards, hm, hq, hmark]
  exact Bool.and_false _

end Model

namespace Handle

variable {h : Handle} {q : Descriptor} {n : Nat} {s' : Store}

/-- The same model over another store. -/
def withStore (h : Handle) (s : Store) : Handle :=
  { h with library := { h.library with store := s } }

/-- Whether a request has a filter, and the table of the model has every column of it. -/
structure Asks (h : Handle) (q : Descriptor) (t : Table) (filter : List Where) : Prop where
  compiled : h.model.filter q = .ok filter
  table : h.library.store.tables.get? h.model.tableName = some t
  columns : ∀ c ∈ Table.columnsOfAll filter, t.hasColumn c = true

namespace Asks

variable {t t' : Table} {filter : List Where}

/-- The request can be asked of any table with the same columns in the place of this one. -/
theorem put (ha : h.Asks q t filter) (hcolumns : t'.columns = t.columns) :
    (h.withStore (h.library.store.put h.model.tableName t')).Asks q t' filter where
  compiled := ha.compiled
  table := Assoc.get?_insert_self _ _ _
  columns c hc := by
    rw [Table.hasColumn, hcolumns]
    exact ha.columns c hc

theorem passes (ha : h.Asks q t filter) : (fun row : Record => row.passes filter) = h.model.admits q :=
  funext (Model.passes_filter ha.compiled)

theorem length_matching (ha : h.Asks q t filter) :
    (t.matching filter).length = (h.stored.filter (h.model.admits q)).length := by
  rw [Table.matching, ha.passes, stored, Library.rowsOf_eq ha.table]

theorem count (ha : h.Asks q t filter) : h.count q = .ok (h.stored.filter (h.model.admits q)).length :=
  bind_eq_ok_iff.2 ⟨filter, ha.compiled, Library.ofStore_eq_ok_iff.2 (bind_eq_ok_iff.2
    ⟨t, Library.table?_eq_ok_iff.2 ha.table, Table.count_eq_ok_iff.2 ⟨ha.columns, ha.length_matching.symm⟩⟩)⟩

/-- Where no row is admitted, none is counted. -/
theorem count_of_none (ha : h.Asks q t filter) (hnone : ∀ row ∈ t.rows, h.model.admits q row = false) :
    h.count q = .ok 0 := by
  have hempty : h.stored.filter (h.model.admits q) = [] := by
    rw [stored, Library.rowsOf_eq ha.table]
    exact List.filter_eq_nil_iff.2 fun row hrow => by simp [hnone row hrow]
  rw [ha.count, hempty]
  rfl

end Asks

/-- What is counted are the rows that the request admits. -/
theorem count_eq_ok_iff :
    h.count q = .ok n ↔ (∃ t filter, h.Asks q t filter) ∧ n = (h.stored.filter (h.model.admits q)).length := by
  constructor
  · intro hc
    obtain ⟨filter, hf, hstore⟩ := bind_eq_ok_iff.1 hc
    obtain ⟨t, ht, htable⟩ := bind_eq_ok_iff.1 (Library.ofStore_eq_ok_iff.1 hstore)
    have ha : h.Asks q t filter := ⟨hf, Library.table?_eq_ok_iff.1 ht, (Table.count_eq_ok_iff.1 htable).1⟩
    exact ⟨⟨t, filter, ha⟩, ok_eq_ok_iff.1 (hc.symm.trans ha.count).symm⟩
  · rintro ⟨⟨t, filter, ha⟩, rfl⟩
    exact ha.count

/-- What is left behind by deleting the rows of a request. -/
structure Deleted (h : Handle) (now : String) (q : Descriptor) (n : Nat) (s' : Store) : Prop where
  /-- As many rows are reported as the request counts beforehand. -/
  counted : h.count q = .ok n
  /-- The request counts none afterwards. -/
  gone : (h.withStore s').count q = .ok 0
  /-- To delete again reports none and leaves the rows alone. -/
  again : ∀ later, ∃ s'', (h.withStore s').deleteWhere later q = .ok (0, s'') ∧
    s''.rowsOf h.model.tableName = s'.rowsOf h.model.tableName
  /-- Other tables are as they were. -/
  others : ∀ other, other ≠ h.model.tableName → s'.tables.get? other = h.library.store.tables.get? other
  /-- Where deleted rows are marked, the mark is set in the rows of the request, none of which had it. -/
  marked : h.model.marksDeleted = true →
    Record.Sets (h.model.admits q) [(deletedAt, .text now)] h.stored (s'.rowsOf h.model.tableName) ∧
      ∀ row ∈ h.stored, h.model.admits q row = true → row.isNullAt deletedAt = true
  /-- Elsewhere the rows of the request are gone, and the others are as they were. -/
  removed : h.model.marksDeleted = false →
    s'.rowsOf h.model.tableName = h.stored.filter fun row => !row.passes q.wheres

/-- What is left behind by removing the rows of a request for good. -/
structure Destroyed (h : Handle) (q : Descriptor) (n : Nat) (s' : Store) : Prop where
  /-- As many rows are reported as pass the filter of the request, marked ones included. -/
  counted : n = (h.stored.filter fun row => row.passes q.wheres).length
  /-- These are gone, and the others are as they were. -/
  removed : s'.rowsOf h.model.tableName = h.stored.filter fun row => !row.passes q.wheres
  /-- Other tables are as they were. -/
  others : ∀ other, other ≠ h.model.tableName → s'.tables.get? other = h.library.store.tables.get? other
  /-- The request counts none afterwards, marked ones included. -/
  gone : (h.withStore s').count q.includingTrashed = .ok 0

/-- What removing the rows of a request for good does to the table. -/
theorem exists_of_destroyWhere (hd : h.destroyWhere q = .ok (n, s')) :
    ∃ t t', h.Asks q.includingTrashed t q.wheres ∧ t'.columns = t.columns ∧
      t'.rows = t.rows.filter (fun row => !row.passes q.wheres) ∧ n = (t.matching q.wheres).length ∧
      s' = h.library.store.put h.model.tableName t' := by
  obtain ⟨filter, hf, hd⟩ := bind_eq_ok_iff.1 hd
  obtain ⟨t, t', ht, htable, rfl⟩ := Store.exists_put (Library.ofStore_eq_ok_iff.1 hd)
  obtain ⟨hcolumns, rfl, hmade⟩ := Table.delete_eq_ok_iff.1 htable
  have hguards : h.model.guards q.includingTrashed = false := Bool.and_false _
  obtain rfl : filter = q.wheres := by
    rw [(Model.filter_eq_ok_iff.1 hf).2, hguards]
    rfl
  exact ⟨t, t', ⟨hf, ht, hcolumns⟩, by rw [hmade], by rw [hmade], rfl, rfl⟩

theorem destroyed_of_destroyWhere (hd : h.destroyWhere q = .ok (n, s')) : h.Destroyed q n s' := by
  obtain ⟨t, t', ha, hcolumns, hrows, rfl, rfl⟩ := exists_of_destroyWhere hd
  have hstored : h.stored = t.rows := Library.rowsOf_eq ha.table
  refine ⟨?_, ?_, fun other hother => Store.get?_put_of_ne _ _ hother, (ha.put hcolumns).count_of_none ?_⟩
  · rw [hstored, Table.matching]
  · rw [Store.rowsOf_put, hrows, hstored]
  · intro row hrow
    rw [hrows, List.mem_filter, Bool.not_eq_true'] at hrow
    exact (h.model.admits_includingTrashed q row).trans hrow.2

/-- To remove rows for good where the filter lets none through does nothing. -/
theorem destroyWhere_of_none {t : Table} (ha : h.Asks q.includingTrashed t q.wheres)
    (hnone : ∀ row ∈ t.rows, row.passes q.wheres = false) :
    ∃ s'', h.destroyWhere q = .ok (0, s'') ∧ s''.rowsOf h.model.tableName = t.rows := by
  have hmatching : t.matching q.wheres = [] := List.filter_eq_nil_iff.2 fun row hrow => by simp [hnone row hrow]
  have hkept : (t.rows.filter fun row => !row.passes q.wheres) = t.rows :=
    List.filter_eq_self.2 fun row hrow => by simp [hnone row hrow]
  have hdelete : t.delete h.model.tableName q.wheres = .ok (0, t) :=
    Table.delete_eq_ok_iff.2 ⟨ha.columns, by rw [hmatching]; rfl, by rw [hkept]⟩
  refine ⟨h.library.store.put h.model.tableName t, ?_, Store.rowsOf_put _ _ t⟩
  exact bind_eq_ok_iff.2 ⟨_, ha.compiled, Library.ofStore_eq_ok_iff.2 (Store.bind_put ha.table hdelete)⟩

/-- To mark rows where the request admits none does nothing. -/
theorem markWhere_of_none (hm : h.model.marksDeleted = true) {t : Table} {filter : List Where}
    (ha : h.Asks q t filter) (hmark : t.hasColumn deletedAt = true)
    (hnone : ∀ row ∈ t.rows, h.model.admits q row = false) (now : String) :
    ∃ s'', h.deleteWhere now q = .ok (0, s'') ∧ s''.rowsOf h.model.tableName = t.rows := by
  have hpasses : ∀ row ∈ t.rows, row.passes filter = false := fun row hrow =>
    (congrFun ha.passes row).trans (hnone row hrow)
  have hmatching : t.matching filter = [] := List.filter_eq_nil_iff.2 fun row hrow => by simp [hpasses row hrow]
  have hkept :
      (t.rows.map fun row => if row.passes filter then row.extend [(deletedAt, .text now)] else row) = t.rows :=
    (List.map_congr_left fun row hrow => if_neg (by simp [hpasses row hrow])).trans (List.map_id' _)
  have hupdate : t.update h.model.tableName filter [(deletedAt, .text now)] = .ok (0, t) :=
    Table.update_eq_ok_iff.2 ⟨ha.columns, List.forall_mem_singleton.2 hmark, by rw [hmatching]; rfl, by rw [hkept]⟩
  refine ⟨h.library.store.put h.model.tableName t, ?_, Store.rowsOf_put _ _ t⟩
  rw [deleteWhere, if_pos hm]
  exact bind_eq_ok_iff.2 ⟨_, ha.compiled, Library.ofStore_eq_ok_iff.2 (Store.bind_put ha.table hupdate)⟩

theorem deleted_of_marking (hm : h.model.marksDeleted = true) (hq : q.withTrashed = false) {now : String}
    (hd : h.deleteWhere now q = .ok (n, s')) : h.Deleted now q n s' := by
  rw [deleteWhere, if_pos hm] at hd
  obtain ⟨filter, hf, hd⟩ := bind_eq_ok_iff.1 hd
  have hstore := Library.ofStore_eq_ok_iff.1 hd
  obtain ⟨t, t', ht, hu, rfl⟩ := Store.exists_put hstore
  obtain ⟨hcolumns, hset, rfl, hmade⟩ := Table.update_eq_ok_iff.1 hu
  have ha : h.Asks q t filter := ⟨hf, ht, hcolumns⟩
  have ha' : (h.withStore (h.library.store.put h.model.tableName t')).Asks q t' filter := ha.put (by rw [hmade])
  have hmark : t'.hasColumn deletedAt = true := by
    rw [hmade]
    exact hset deletedAt List.mem_cons_self
  -- a row that passed has the mark now, and one that did not is as it was
  have hnone : ∀ row ∈ t'.rows, h.model.admits q row = false := by
    intro row hrow
    rw [hmade] at hrow
    obtain ⟨old, -, rfl⟩ := List.mem_map.1 hrow
    split
    next => exact Model.admits_extend_mark hm hq old now
    next hout => exact (Model.passes_filter hf old).symm.trans (Bool.eq_false_iff.2 hout)
  refine ⟨ha.length_matching ▸ ha.count, ha'.count_of_none hnone, fun later => ?_,
    fun other hother => Store.get?_put_of_ne _ _ hother, fun _ => ⟨?_, fun row _ hadmits => ?_⟩, fun hnot => ?_⟩
  · rw [Store.rowsOf_put]
    exact markWhere_of_none (h := h.withStore (h.library.store.put h.model.tableName t')) hm ha' hmark hnone later
  · have hdistinct : Assoc.Distinct [(deletedAt, Value.text now)] := List.nodup_singleton _
    exact ha.passes ▸ (Store.sets_of_update hdistinct hstore).2
  · exact (Library.admits_iff.1 hadmits).2 hm hq
  · rw [hm] at hnot
    cases hnot

theorem deleted_of_removing (hm : h.model.marksDeleted = false) {now : String}
    (hd : h.deleteWhere now q = .ok (n, s')) : h.Deleted now q n s' := by
  have hdestroy (s : Store) (later : String) : (h.withStore s).deleteWhere later q = (h.withStore s).destroyWhere q :=
    if_neg (Bool.eq_false_iff.1 hm)
  have hcount (s : Store) : (h.withStore s).count q = (h.withStore s).count q.includingTrashed := by
    have hmarks : (h.withStore s).model.marksDeleted = false := hm
    rw [count, Library.count, count, Library.count, Model.filter_includingTrashed hmarks]
  replace hd : h.destroyWhere q = .ok (n, s') := (hdestroy h.library.store now).symm.trans hd
  obtain ⟨t, t', ha, hcolumns, hrows, rfl, rfl⟩ := exists_of_destroyWhere hd
  obtain ⟨-, hremoved, hothers, hgone⟩ := destroyed_of_destroyWhere hd
  have hnone : ∀ row ∈ t'.rows, row.passes q.wheres = false := fun row hrow => by
    rw [hrows, List.mem_filter, Bool.not_eq_true'] at hrow
    exact hrow.2
  refine ⟨?_, (hcount _).trans hgone, fun later => ?_, hothers, fun hyes => ?_, fun _ => hremoved⟩
  · rw [ha.length_matching]
    exact (hcount h.library.store).trans ha.count
  · rw [hdestroy, Store.rowsOf_put]
    exact destroyWhere_of_none (ha.put hcolumns) hnone
  · rw [hm] at hyes
    cases hyes

/-- To delete the rows of a request marks the rows that it counts, or removes them where rows are not marked, and leaves
nothing to be counted or deleted. To destroy them removes the rows that pass the filter, marked ones included. -/
theorem counted_rows_deleted (h : Handle) (q : Descriptor) :
    (q.withTrashed = false → ∀ now n s', h.deleteWhere now q = .ok (n, s') → h.Deleted now q n s') ∧
      ∀ n s', h.destroyWhere q = .ok (n, s') → h.Destroyed q n s' := by
  refine ⟨fun hq now n s' hd => ?_, fun n s' => destroyed_of_destroyWhere⟩
  cases hm : h.model.marksDeleted with
  | true => exact deleted_of_marking hm hq hd
  | false => exact deleted_of_removing hm hd

end Handle

namespace Sample

/-- The request for the authors who are deleted, or whose name is Ada. -/
def deletedOrAda : Descriptor :=
  { Descriptor.empty with wheres := [.compare "deleted_at" .notNull .null, .leaf .or "name" .eq (.text "Ada")] }

/-- One author is marked, and not counted any more though her row passes the filter twice over; the one who was deleted
before keeps his mark. To destroy the same rows removes both. -/
theorem ada_deleted :
    deletedOrAda.withTrashed = false ∧
      (∃ s', authorHandle.deleteWhere "2025-01-01" deletedOrAda = .ok (1, s') ∧
        authorHandle.Deleted "2025-01-01" deletedOrAda 1 s' ∧
        (s'.rowsOf "authors").map (fun row => row.cell "deleted_at") =
          [.text "2025-01-01", .text "2024-02-29", .null]) ∧
      ∃ s', authorHandle.destroyWhere deletedOrAda = .ok (2, s') ∧ authorHandle.Destroyed deletedOrAda 2 s' ∧
        (s'.rowsOf "authors").map (fun row => row.cell "name") = [.text "Cy"] := by
  obtain ⟨hdelete, hdestroy⟩ := Handle.counted_rows_deleted authorHandle deletedOrAda
  exact ⟨rfl, ⟨_, rfl, hdelete rfl "2025-01-01" 1 _ rfl, rfl⟩, ⟨_, rfl, hdestroy 2 _ rfl, rfl⟩⟩

end Sample

end DataModel

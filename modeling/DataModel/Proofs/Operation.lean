import DataModel.Handle
import DataModel.Proofs.Storage
import Mathlib.Logic.Relation

/-!
# Runs of operations on a model

The operations of a handle, all but those that remove rows for good and the one that makes the table anew, and
their runs. What an operation can do to the store is said once, in `Handle.step_writes`: it inserts rows, or
it changes rows that a filter of the model lets through, or it alters the table. On a model that marks deleted
rows the filter keeps them out, so deleted rows stay as they are along every run; an altered table only gives
them more cells.
-/

namespace DataModel

namespace Handle

/-- An operation on a model, other than those that remove rows for good or make the table anew. -/
inductive Operation where
  | get (q : Descriptor)
  | find (id : Value) (q : Descriptor)
  | count (q : Descriptor)
  | paginate (q : Descriptor) (page size : UInt64)
  | create (s : Surroundings) (row : Record)
  | save (s : Surroundings) (row : Record)
  | update (s : Surroundings) (id : Value) (row : Record)
  | updateWhere (s : Surroundings) (q : Descriptor) (row : Record)
  | eachSave (s : Nat → Surroundings) (rows : List Record) (defaults : Record)
  | insert (columns : List String) (rows : List (List Value))
  | delete (now : String) (id : Value)
  | deleteWhere (now : String) (q : Descriptor)
  | migrate

/-- Whether the request of an operation, if it has one, leaves deleted rows out. -/
def Operation.Plain : Operation → Prop
  | .get q | .find _ q | .count q | .paginate q _ _ | .updateWhere _ q _ | .deleteWhere _ q => q.withTrashed = false
  | _ => True

/-- Whether an operation is a migration. -/
def Operation.isMigration : Operation → Bool
  | .migrate => true
  | _ => false

/-- The store after a write: as it was, when the write failed. -/
def settled {α : Type} (h : Handle) (result : Except ModelError (α × Store)) : Store :=
  match result with
  | .ok (_, s) => s
  | .error _ => h.library.store

/-- The store after an operation. -/
def storeAfter (h : Handle) : Operation → Store
  | .get _ | .find _ _ | .count _ | .paginate _ _ _ => h.library.store
  | .create s row => h.settled (h.create s row)
  | .save s row => h.settled (h.save s row)
  | .update s id row => h.settled (h.update s id row)
  | .updateWhere s q row => h.settled (h.updateWhere s q row)
  | .eachSave s rows defaults => (h.eachSave s rows defaults).2
  | .insert columns rows => h.settled (h.insert columns rows)
  | .delete now id => h.settled (h.delete now id)
  | .deleteWhere now q => h.settled (h.deleteWhere now q)
  | .migrate => h.settled (h.migrate false)

/-- The handle after an operation. -/
def step (h : Handle) (op : Operation) : Handle :=
  { h with library := { h.library with store := h.storeAfter op } }

/-- The handle after several operations. -/
def run (h : Handle) (ops : List Operation) : Handle :=
  ops.foldl step h

/-- The stored rows of the model. -/
def stored (h : Handle) : List Record :=
  h.library.rowsOf h.model.tableName

end Handle

/-- Whether a store comes from another by one write of a model: rows are inserted, or cells are set in the
rows that the filter of a request lets through which leaves deleted rows out. -/
inductive Model.Writes (m : Model) (s : Store) : Store → Prop
  | insert {s' : Store} {values : Record} {id : Value} (h : s.insert m.tableName values = .ok (id, s')) :
      Writes m s s'
  | insertAll {s' : Store} {columns : List String} {rows : List (List Value)} {n : Nat}
      (h : s.insertAll m.tableName columns rows = .ok (n, s')) : Writes m s s'
  | update {s' : Store} {q : Descriptor} {filter : List Where} {values : Record} {n : Nat}
      (hq : q.withTrashed = false) (hf : m.filter q = .ok filter)
      (h : s.update m.tableName filter values = .ok (n, s')) : Writes m s s'

namespace Record

/-- Whether the deleted ones among some rows are still there, each in its place and as it was. -/
def Freezes (rows rows' : List Record) : Prop :=
  ∀ (i : Nat) (row : Record), rows[i]? = some row → row.isNullAt deletedAt = false → rows'[i]? = some row

/-- Whether the deleted ones among some rows are still there, each in its place and with every cell it had. -/
def Keeps (rows rows' : List Record) : Prop :=
  ∀ (i : Nat) (row : Record), rows[i]? = some row → row.isNullAt deletedAt = false →
    ∃ row' : Record, rows'[i]? = some row' ∧ ∀ c v, row.get? c = some v → row'.get? c = some v

theorem Freezes.refl (rows : List Record) : Freezes rows rows :=
  fun _ _ h _ => h

theorem Freezes.trans {rows rows' rows'' : List Record} (h : Freezes rows rows') (h' : Freezes rows' rows'') :
    Freezes rows rows'' :=
  fun i row hrow hdeleted => h' i row (h i row hrow hdeleted) hdeleted

theorem Freezes.append (rows more : List Record) : Freezes rows (rows ++ more) := by
  intro i row hrow _
  obtain ⟨hi, -⟩ := List.getElem?_eq_some_iff.1 hrow
  rw [List.getElem?_append_left hi, hrow]

theorem Freezes.map {f : Record → Record} {rows : List Record}
    (hf : ∀ row ∈ rows, row.isNullAt deletedAt = false → f row = row) : Freezes rows (rows.map f) := by
  intro i row hrow hdeleted
  rw [List.getElem?_map, hrow, Option.map_some, hf row (List.mem_of_getElem? hrow) hdeleted]

theorem Freezes.keeps {rows rows' : List Record} (h : Freezes rows rows') : Keeps rows rows' :=
  fun i row hrow hdeleted => ⟨row, h i row hrow hdeleted, fun _ _ hv => hv⟩

/-- A row with every cell of a deleted one is deleted. -/
theorem isNullAt_of_keeps {row row' : Record} {column : String} (h : row.isNullAt column = false)
    (hkeep : ∀ c v, row.get? c = some v → row'.get? c = some v) : row'.isNullAt column = false := by
  unfold isNullAt at h ⊢
  cases hv : row.get? column with
  | none => simp [hv] at h
  | some v =>
    rw [hkeep column v hv]
    rwa [hv] at h

theorem Keeps.trans {rows rows' rows'' : List Record} (h : Keeps rows rows') (h' : Keeps rows' rows'') :
    Keeps rows rows'' := by
  intro i row hrow hdeleted
  obtain ⟨row', hrow', hkeep⟩ := h i row hrow hdeleted
  obtain ⟨row'', hrow'', hkeep'⟩ := h' i row' hrow' (isNullAt_of_keeps hdeleted hkeep)
  exact ⟨row'', hrow'', fun c v hv => hkeep' c v (hkeep c v hv)⟩

end Record

namespace Store

variable {s s' : Store} {name : String}

theorem rowsOf_of_table {t : Table} (h : s.table? name = .ok t) : s.rowsOf name = t.rows := by
  rw [rowsOf, Library.table?_eq_ok_iff.1 h]

theorem rowsOf_put (s : Store) (name : String) (t : Table) : (s.put name t).rowsOf name = t.rows := by
  rw [rowsOf, put, Assoc.get?_insert_self]

theorem rowsOf_insert {values : Record} {id : Value} (h : s.insert name values = .ok (id, s')) :
    ∃ row, s'.rowsOf name = s.rowsOf name ++ [row] := by
  obtain ⟨t, t', ht, hi, rfl⟩ := exists_put h
  obtain ⟨row, next, -, -, -, rfl⟩ := Table.exists_of_insert hi
  exact ⟨row, by rw [rowsOf_put, rowsOf, ht]⟩

theorem rowsOf_insertAll {columns : List String} {rows : List (List Value)} {n : Nat}
    (h : s.insertAll name columns rows = .ok (n, s')) : ∃ built, s'.rowsOf name = s.rowsOf name ++ built := by
  obtain ⟨t, t', ht, hi, rfl⟩ := exists_put h
  obtain ⟨built, next, -, -, -, rfl⟩ := Table.exists_of_insertAll hi
  exact ⟨built, by rw [rowsOf_put, rowsOf, ht]⟩

theorem rowsOf_update {filter : List Where} {values : Record} {n : Nat}
    (h : s.update name filter values = .ok (n, s')) :
    s'.rowsOf name = (s.rowsOf name).map fun row => if row.passes filter then row.extend values else row := by
  obtain ⟨t, t', ht, hu, rfl⟩ := exists_put h
  obtain ⟨-, rfl⟩ := Table.eq_of_update hu
  rw [rowsOf_put, rowsOf, ht]

end Store

/-- A table that is there is altered, or left alone when nothing differs. -/
theorem Model.migrateExisting_cases {m : Model} {s s' : Store} {report : MigrationReport}
    (h : m.migrateExisting s = .ok (report, s')) : s' = s ∨ ∃ d, s.alter m.tableName d = .ok s' := by
  obtain ⟨live, -, h⟩ := bind_eq_ok_iff.1 h
  dsimp only at h
  split at h
  · exact Or.inl (snd_eq_of_ok h)
  · obtain ⟨altered, halter, h⟩ := bind_eq_ok_iff.1 h
    rw [snd_eq_of_ok h]
    exact Or.inr ⟨_, halter⟩

namespace Model.Writes

variable {m : Model} {s s' : Store}

theorem sound (h : m.Writes s s') (hs : s.Sound) : s'.Sound := by
  cases h with
  | insert h => exact hs.insert h
  | insertAll h => exact hs.insertAll h
  | update _ _ h => exact hs.update h

/-- A write leaves deleted rows as they are: the filter of a request keeps them out. -/
theorem freezes (h : m.Writes s s') (hm : m.marksDeleted = true) :
    Record.Freezes (s.rowsOf m.tableName) (s'.rowsOf m.tableName) := by
  cases h with
  | insert h =>
    obtain ⟨row, hrows⟩ := Store.rowsOf_insert h
    rw [hrows]
    exact .append _ _
  | insertAll h =>
    obtain ⟨built, hrows⟩ := Store.rowsOf_insertAll h
    rw [hrows]
    exact .append _ _
  | update hq hf h =>
    -- a deleted row does not pass the guard, so it is not among those that are changed
    rw [Store.rowsOf_update h]
    refine .map fun row _ hdeleted => if_neg ?_
    rw [Model.passes_filter hf, Model.admits, Model.guards, hm, hq, hdeleted]
    simp

theorem sound_all (h : Relation.ReflTransGen m.Writes s s') (hs : s.Sound) : s'.Sound := by
  induction h with
  | refl => exact hs
  | tail _ hwrite ih => exact hwrite.sound ih

/-- Several writes leave deleted rows as they are. -/
theorem freezes_all (h : Relation.ReflTransGen m.Writes s s') (hm : m.marksDeleted = true) :
    Record.Freezes (s.rowsOf m.tableName) (s'.rowsOf m.tableName) := by
  induction h with
  | refl => exact .refl _
  | tail _ hwrite ih => exact ih.trans (hwrite.freezes hm)

end Model.Writes

namespace Handle

variable {h : Handle}

theorem create_writes {s : Surroundings} {row : Record} {id : Value} {s' : Store}
    (hc : h.create s row = .ok (id, s')) : h.model.Writes h.library.store s' := by
  obtain ⟨row', -, hc⟩ := bind_eq_ok_iff.1 hc
  exact .insert (Library.ofStore_eq_ok_iff.1 hc)

theorem updateWhere_writes {s : Surroundings} {q : Descriptor} {row : Record} {n : Nat} {s' : Store}
    (hq : q.withTrashed = false) (hu : h.updateWhere s q row = .ok (n, s')) :
    Relation.ReflGen h.model.Writes h.library.store s' := by
  obtain ⟨row', -, hu⟩ := bind_eq_ok_iff.1 hu
  split at hu
  · exact snd_eq_of_ok hu ▸ .refl
  · obtain ⟨filter, hf, hu⟩ := bind_eq_ok_iff.1 hu
    exact .single (.update hq hf (Library.ofStore_eq_ok_iff.1 hu))

theorem save_writes {s : Surroundings} {row : Record} {id : Value} {s' : Store}
    (hs : h.save s row = .ok (id, s')) : Relation.ReflGen h.model.Writes h.library.store s' := by
  unfold save at hs
  split at hs
  · obtain ⟨⟨n, store⟩, hu, hs⟩ := bind_eq_ok_iff.1 hs
    rw [snd_eq_of_ok hs]
    exact updateWhere_writes rfl hu
  · exact .single (create_writes hs)

theorem deleteWhere_writes {now : String} {q : Descriptor} {n : Nat} {s' : Store}
    (hm : h.model.marksDeleted = true) (hq : q.withTrashed = false)
    (hd : h.deleteWhere now q = .ok (n, s')) : h.model.Writes h.library.store s' := by
  rw [deleteWhere, if_pos hm] at hd
  obtain ⟨filter, hf, hd⟩ := bind_eq_ok_iff.1 hd
  exact .update hq hf (Library.ofStore_eq_ok_iff.1 hd)

theorem insert_writes {columns : List String} {rows : List (List Value)} {n : Nat} {s' : Store}
    (hi : h.insert columns rows = .ok (n, s')) : h.model.Writes h.library.store s' := by
  obtain ⟨-, hi⟩ := check_bind_eq_ok_iff.1 hi
  obtain ⟨-, hi⟩ := check_bind_eq_ok_iff.1 hi
  exact .insertAll (Library.ofStore_eq_ok_iff.1 hi)

/-- Saving several rows is a row of writes, also when one of them fails. -/
theorem eachSaveFrom_writes {s : Nat → Surroundings} {defaults : Record} {index : Nat} {rows : List Record} :
    Relation.ReflTransGen h.model.Writes h.library.store (h.eachSaveFrom s defaults index rows).2 := by
  induction rows generalizing h index with
  | nil => exact .refl
  | cons row rows ih =>
    unfold eachSaveFrom
    split
    next => exact .refl
    next id store hs =>
      have hfirst := (save_writes hs).to_reflTransGen
      have hrest := @ih { h with library := { h.library with store } } (index + 1)
      split
      next heq => rw [heq] at hrest; exact hfirst.trans hrest
      next heq => rw [heq] at hrest; exact hfirst.trans hrest

theorem settled_cases {α : Type} {result : Except ModelError (α × Store)} {P : Store → Prop}
    (hok : ∀ a s, result = .ok (a, s) → P s) (hsame : P h.library.store) : P (h.settled result) := by
  unfold settled
  split
  next a s => exact hok a s rfl
  next => exact hsame

/-- What an operation other than a migration can do on a model that marks deleted rows. -/
theorem step_writes {op : Operation} (hm : h.model.marksDeleted = true) (hop : op.Plain)
    (hmigrate : op.isMigration = false) :
    Relation.ReflTransGen h.model.Writes h.library.store (h.step op).library.store := by
  cases op with
  | get q => exact .refl
  | find id q => exact .refl
  | count q => exact .refl
  | paginate q page size => exact .refl
  | create s row => exact settled_cases (fun _ _ hr => .single (create_writes hr)) .refl
  | save s row => exact settled_cases (fun _ _ hr => (save_writes hr).to_reflTransGen) .refl
  | update s id row => exact settled_cases (fun _ _ hr => (updateWhere_writes rfl hr).to_reflTransGen) .refl
  | updateWhere s q row => exact settled_cases (fun _ _ hr => (updateWhere_writes hop hr).to_reflTransGen) .refl
  | eachSave s rows defaults => exact eachSaveFrom_writes
  | insert columns rows => exact settled_cases (fun _ _ hr => .single (insert_writes hr)) .refl
  | delete now id => exact settled_cases (fun _ _ hr => .single (deleteWhere_writes hm rfl hr)) .refl
  | deleteWhere now q => exact settled_cases (fun _ _ hr => .single (deleteWhere_writes hm hop hr)) .refl
  | migrate => cases hmigrate

/-- What a migration without force can do: nothing, alter the table, or make it when there is none. -/
theorem migrate_cases {report : MigrationReport} {s' : Store} (hr : h.migrate false = .ok (report, s')) :
    s' = h.library.store ∨ (∃ d, h.library.store.alter h.model.tableName d = .ok s') ∨
      h.library.store.hasTable h.model.tableName = false ∧ h.library.store.create h.model.table = .ok s' := by
  unfold migrate Model.migrate at hr
  cases ht : h.library.store.hasTable h.model.tableName with
  | true =>
    simp only [Bool.false_eq_true, if_false, ht, if_true] at hr
    split at hr
    next hmigrate =>
      rw [Except.ok.inj hr] at hmigrate
      exact (Model.migrateExisting_cases hmigrate).imp_right Or.inl
    next => cases hr
  | false =>
    simp only [Bool.false_eq_true, if_false, ht] at hr
    split at hr
    next hmigrate =>
      rw [Except.ok.inj hr] at hmigrate
      obtain ⟨made, hcreate, hmigrate⟩ := bind_eq_ok_iff.1 hmigrate
      rw [snd_eq_of_ok hmigrate]
      exact Or.inr (Or.inr ⟨rfl, hcreate⟩)
    next => cases hr

end Handle

namespace Table

/-- A column that is added is none that a row has a cell for. -/
theorem keeps_addColumn {t : Table} (h : t.Sound) (c : ColumnDefinition) :
    Record.Keeps t.rows (t.addColumn c).rows := by
  unfold addColumn
  split
  · exact (Record.Freezes.refl _).keeps
  next hc =>
    -- a sound row has no cell under a column that the table does not have
    intro i row hrow _
    refine ⟨row.insert c.name (c.default.getD .null), by rw [List.getElem?_map, hrow]; rfl, fun d v hv => ?_⟩
    have hd : t.hasColumn d = true := by
      refine (h.rows row (List.mem_of_getElem? hrow) d).1 (by_contra fun hnot => ?_)
      rw [Assoc.get?_eq_none_iff.2 hnot] at hv
      cases hv
    have hne : c.name ≠ d := fun he => hc (by rw [he, hd])
    rw [Assoc.get?_insert_of_ne hne, hv]

theorem keeps_alter {t t' : Table} {name : String} {d : TableDiff} (h : t.Sound)
    (ha : t.alter name d = .ok t') : Record.Keeps t.rows t'.rows := by
  have hkept : t'.Sound ∧ Record.Keeps t.rows t'.rows :=
    alter_rec (motive := fun u => u.Sound ∧ Record.Keeps t.rows u.rows) ha ⟨h, (Record.Freezes.refl _).keeps⟩
      (fun u hu c => ⟨hu.1.addColumn c, hu.2.trans (keeps_addColumn hu.1 c)⟩)
      fun u hu c => ⟨hu.1.changeColumn c, hu.2⟩
  exact hkept.2

end Table

namespace Handle

variable {h : Handle}

/-- A migration leaves every cell of the deleted rows, and the store sound. -/
theorem migrate_keeps {report : MigrationReport} {s' : Store} (hs : h.library.store.Sound)
    (hr : h.migrate false = .ok (report, s')) :
    s'.Sound ∧ Record.Keeps h.stored (s'.rowsOf h.model.tableName) := by
  rcases migrate_cases hr with rfl | ⟨d, ha⟩ | ⟨ht, hc⟩
  · exact ⟨hs, (Record.Freezes.refl _).keeps⟩
  · refine ⟨hs.alter ha, ?_⟩
    obtain ⟨t, ht, ha⟩ := bind_eq_ok_iff.1 ha
    obtain ⟨t', ht', ha⟩ := bind_eq_ok_iff.1 ha
    rw [ok_eq_ok_iff.1 ha, Store.rowsOf_put, stored, Library.rowsOf, Store.rowsOf_of_table ht]
    exact Table.keeps_alter (hs.table (Library.table?_eq_ok_iff.1 ht)) ht'
  · refine ⟨hs.create hc, fun i row hrow _ => ?_⟩
    have hnone : h.library.store.tables.get? h.model.tableName = none := by
      simpa [Store.hasTable, Assoc.has] using ht
    rw [stored, Library.rowsOf, Store.rowsOf, hnone] at hrow
    simp at hrow

/-- One operation other than a migration leaves deleted rows as they are. -/
theorem step_freezes {op : Operation} (hm : h.model.marksDeleted = true) (hop : op.Plain)
    (hmigrate : op.isMigration = false) : Record.Freezes h.stored (h.step op).stored :=
  Model.Writes.freezes_all (step_writes hm hop hmigrate) hm

/-- One operation leaves the store sound and deleted rows with every cell they had. -/
theorem step_keeps {op : Operation} (hm : h.model.marksDeleted = true) (hop : op.Plain)
    (hs : h.library.store.Sound) :
    (h.step op).library.store.Sound ∧ Record.Keeps h.stored (h.step op).stored := by
  cases hmigrate : op.isMigration with
  | true =>
    cases op with
    | migrate =>
      let P := fun s' : Store => s'.Sound ∧ Record.Keeps h.stored (s'.rowsOf h.model.tableName)
      have hkeep : P (h.settled (h.migrate false)) :=
        settled_cases (fun _ _ hr => migrate_keeps hs hr) ⟨hs, (Record.Freezes.refl _).keeps⟩
      exact hkeep
    | _ => cases hmigrate
  | false =>
    have hsound := Model.Writes.sound_all (step_writes hm hop hmigrate) hs
    exact ⟨hsound, (step_freezes hm hop hmigrate).keeps⟩

/-- Along a run without migrations deleted rows stay as they are. -/
theorem run_freezes {ops : List Operation} (hm : h.model.marksDeleted = true) (hops : ∀ op ∈ ops, op.Plain)
    (hmigrate : ∀ op ∈ ops, op.isMigration = false) : Record.Freezes h.stored (h.run ops).stored := by
  induction ops generalizing h with
  | nil => exact .refl _
  | cons op ops ih =>
    rw [List.forall_mem_cons] at hops hmigrate
    have hfirst := step_freezes hm hops.1 hmigrate.1
    have hrest : Record.Freezes (h.step op).stored ((h.step op).run ops).stored := ih hm hops.2 hmigrate.2
    exact hfirst.trans hrest

/-- Along a run the store stays sound and deleted rows keep every cell they had. -/
theorem run_keeps {ops : List Operation} (hm : h.model.marksDeleted = true) (hops : ∀ op ∈ ops, op.Plain)
    (hs : h.library.store.Sound) :
    (h.run ops).library.store.Sound ∧ Record.Keeps h.stored (h.run ops).stored := by
  induction ops generalizing h with
  | nil => exact ⟨hs, (Record.Freezes.refl _).keeps⟩
  | cons op ops ih =>
    rw [List.forall_mem_cons] at hops
    obtain ⟨hsound, hkeep⟩ := step_keeps hm hops.1 hs
    obtain ⟨hsound', hkeep'⟩ := ih (h := h.step op) hm hops.2 hsound
    exact ⟨hsound', hkeep.trans hkeep'⟩

end Handle

end DataModel

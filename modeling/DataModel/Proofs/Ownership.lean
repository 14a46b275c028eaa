import DataModel.Proofs.Integrity

/-! A table belongs to a model when a migration of the model has made it and nothing but the model has written to
it since. All that the model does is to change rows, to find nothing to migrate, and to make the table anew.
So the table declares what it declared when it was made. -/

namespace DataModel

/-- Whether an operation changes nothing but the rows of a table. -/
def Store.Operation.changesRows : Store.Operation → Bool
  | .insert _ _ | .insertAll _ _ _ | .update _ _ _ | .delete _ _ => true
  | .create _ | .alter _ _ | .drop _ => false

namespace Model

variable {m : Model} {s s' : Store}

/-- The stores in which the table of a model belongs to it: a migration of the model has made it, and since then the
model was given commands, and operations went to other tables. -/
inductive Owned (m : Model) : Store → Prop
  | made {ops : List Store.Operation} {force : Bool} {report : MigrationReport} {s : Store}
      (h : m.migrate (Store.empty.run ops) force = .ok (report, s)) (hcreated : report.created = true) : Owned m s
  | obey {s : Store} (h : Owned m s) (registry : Registry) (c : Handle.Command) :
      Owned m ((Handle.mk ⟨registry, s⟩ m).obey c).library.store
  | elsewhere {s : Store} (h : Owned m s) {op : Store.Operation} (hop : op.target ≠ m.tableName) : Owned m (s.step op)

/-- Whether a store comes from another by one change of rows of the model's table. -/
def Touches (m : Model) (s s' : Store) : Prop :=
  ∃ op : Store.Operation, op.changesRows = true ∧ op.target = m.tableName ∧ s.perform op = .ok s'

/-- Whether the table of a model is there and declares what the model declares. -/
structure MadeIn (m : Model) (s : Store) : Prop where
  distinct : Assoc.Distinct s.tables
  table : ∃ t, s.tables.get? m.tableName = some t ∧ t.emptied = .ofDefinition m.table

theorem Performs.touches {removes : Bool} (h : m.Performs removes s s') : m.Touches s s' := by
  obtain ⟨op, hop, hp⟩ := h
  exact ⟨op, by cases hop <;> rfl, hop.target, hp⟩

theorem Writes.touches (h : m.Writes s s') : m.Touches s s' := by
  cases h with
  | insert h => exact ⟨.insert m.tableName _, rfl, rfl, bind_eq_ok_iff.2 ⟨_, h, rfl⟩⟩
  | insertAll h => exact ⟨.insertAll m.tableName _ _, rfl, rfl, bind_eq_ok_iff.2 ⟨_, h, rfl⟩⟩
  | update _ _ h => exact ⟨.update m.tableName _ _, rfl, rfl, bind_eq_ok_iff.2 ⟨_, h, rfl⟩⟩

theorem Writes.touches_all (h : Relation.ReflTransGen m.Writes s s') : Relation.ReflTransGen m.Touches s s' :=
  Relation.ReflTransGen.mono (fun _ _ hwrite => Writes.touches hwrite) _ _ h

/-- A change of rows leaves what the table declares. -/
theorem Touches.exists_table (h : m.Touches s s') {t : Table} (ht : s.tables.get? m.tableName = some t) :
    ∃ t', s' = s.put m.tableName t' ∧ t'.emptied = t.emptied := by
  obtain ⟨op, hrows, htarget, hp⟩ := h
  obtain ⟨d, rfl, -⟩ | ⟨name, rfl, -⟩ | ⟨t₀, t', ht₀, hmakes, rfl⟩ := Store.perform_cases hp
  · cases hrows
  · cases hrows
  · rw [htarget] at ht₀ ⊢
    rw [← Option.some.inj (ht.symm.trans ht₀)] at hmakes
    refine ⟨t', rfl, hmakes.emptied fun name d he => ?_⟩
    rw [he] at hrows
    cases hrows

end Model

namespace Handle

variable {h : Handle}

theorem updateWhere_touches {s : Surroundings} {q : Descriptor} {row : Record} {n : Nat} {s' : Store}
    (hu : h.updateWhere s q row = .ok (n, s')) : Relation.ReflGen h.model.Touches h.library.store s' := by
  obtain ⟨values, -, hu⟩ := bind_eq_ok_iff.1 hu
  split at hu
  · exact snd_eq_of_ok hu ▸ .refl
  · obtain ⟨filter, -, hu⟩ := bind_eq_ok_iff.1 hu
    exact .single ⟨.update h.model.tableName filter values, rfl, rfl,
      bind_eq_ok_iff.2 ⟨_, Library.ofStore_eq_ok_iff.1 hu, rfl⟩⟩

theorem deleteWhere_touches {now : String} {q : Descriptor} {n : Nat} {s' : Store}
    (hd : h.deleteWhere now q = .ok (n, s')) : h.model.Touches h.library.store s' := by
  unfold deleteWhere at hd
  split at hd
  · obtain ⟨filter, -, hd⟩ := bind_eq_ok_iff.1 hd
    exact ⟨.update h.model.tableName filter [(deletedAt, .text now)], rfl, rfl,
      bind_eq_ok_iff.2 ⟨_, Library.ofStore_eq_ok_iff.1 hd, rfl⟩⟩
  · exact (destroyWhere_performs hd).touches

/-- What a command other than a migration can do. -/
theorem obey_touches {c : Command} (hmigrate : c.isMigration = false) :
    Relation.ReflTransGen h.model.Touches h.library.store (h.obey c).library.store := by
  cases c with
  | plain op =>
    cases op with
    | get q => exact .refl
    | find id q => exact .refl
    | count q => exact .refl
    | paginate q page size => exact .refl
    | create s row => exact settled_cases (fun _ _ hr => .single (create_writes hr).touches) .refl
    | save s row =>
      exact settled_cases (fun _ _ hr => Model.Writes.touches_all (save_writes hr).to_reflTransGen) .refl
    | update s id row => exact settled_cases (fun _ _ hr => (updateWhere_touches hr).to_reflTransGen) .refl
    | updateWhere s q row => exact settled_cases (fun _ _ hr => (updateWhere_touches hr).to_reflTransGen) .refl
    | eachSave s rows defaults => exact Model.Writes.touches_all eachSaveFrom_writes
    | insert columns rows => exact settled_cases (fun _ _ hr => .single (insert_writes hr).touches) .refl
    | delete now id => exact settled_cases (fun _ _ hr => .single (deleteWhere_touches hr)) .refl
    | deleteWhere now q => exact settled_cases (fun _ _ hr => .single (deleteWhere_touches hr)) .refl
    | migrate => cases hmigrate
  | destroy id => exact settled_cases (fun _ _ hr => .single (destroyWhere_performs hr).touches) .refl
  | destroyWhere q => exact settled_cases (fun _ _ hr => .single (destroyWhere_performs hr).touches) .refl
  | remake => cases hmigrate

end Handle

namespace Model

variable {m : Model} {s s' : Store}

namespace MadeIn

theorem put (hd : Assoc.Distinct s.tables) {t : Table} (ht : t.emptied = .ofDefinition m.table) :
    m.MadeIn (s.put m.tableName t) :=
  ⟨hd.insert _ _, t, Assoc.get?_insert_self _ _ _, ht⟩

theorem touches (hs : m.MadeIn s) (h : m.Touches s s') : m.MadeIn s' := by
  obtain ⟨t, ht, hmade⟩ := hs.table
  obtain ⟨t', rfl, hsame⟩ := h.exists_table ht
  exact .put hs.distinct (hsame.trans hmade)

theorem touches_all (hs : m.MadeIn s) (h : Relation.ReflTransGen m.Touches s s') : m.MadeIn s' := by
  induction h with
  | refl => exact hs
  | tail _ hstep ih => exact ih.touches hstep

theorem elsewhere (hs : m.MadeIn s) {op : Store.Operation} (hop : op.target ≠ m.tableName) : m.MadeIn (s.step op) := by
  obtain ⟨t, ht, hmade⟩ := hs.table
  refine ⟨Store.distinct_step hs.distinct, t, ?_, hmade⟩
  rw [Store.get?_step_of_ne hop, ht]

/-- A migration leaves the table of the model alone, and making it anew makes it as it was made first. -/
theorem migrate (hm : m.Coherent) (hs : m.MadeIn s) {force : Bool} {report : MigrationReport}
    (h : m.migrate s force = .ok (report, s')) : m.MadeIn s' := by
  cases force with
  | false =>
    obtain ⟨t, ht, hmade⟩ := hs.table
    have hcolumns : t.columns = m.liveColumns := congrArg Table.columns hmade
    rw [migrate_settled ht (hcolumns ▸ hm.diff_made)] at h
    exact snd_eq_of_ok h ▸ hs
  | true =>
    rw [migrate_force, migrate_missing (hasTable_drop hs.distinct m.tableName)] at h
    rw [snd_eq_of_ok h]
    exact .put (hs.distinct.erase _) rfl

/-- Whatever the model is told to do, its table declares what the model declares. -/
theorem obey (hm : m.Coherent) (hs : m.MadeIn s) (registry : Registry) (c : Handle.Command) :
    m.MadeIn ((Handle.mk ⟨registry, s⟩ m).obey c).library.store := by
  cases hmigrate : c.isMigration with
  | false => exact hs.touches_all (Handle.obey_touches (h := ⟨⟨registry, s⟩, m⟩) hmigrate)
  | true =>
    cases c with
    | plain op =>
      cases op with
      | migrate => exact Handle.settled_cases (fun _ _ hr => hs.migrate hm hr) hs
      | _ => cases hmigrate
    | remake => exact Handle.settled_cases (fun _ _ hr => hs.migrate hm hr) hs
    | destroy id => cases hmigrate
    | destroyWhere q => cases hmigrate

end MadeIn

/-- A migration that reports to have made the table has put it where there was none. -/
theorem madeIn_of_created (hd : Assoc.Distinct s.tables) {force : Bool} {report : MigrationReport}
    (h : m.migrate s force = .ok (report, s')) (hcreated : report.created = true) : m.MadeIn s' := by
  have hunforced : ∀ s₀ : Store, Assoc.Distinct s₀.tables → m.migrate s₀ false = .ok (report, s') → m.MadeIn s' := by
    intro s₀ hd₀ h₀
    obtain ⟨-, -, rfl⟩ | ⟨t, t', -, -, rfl, -⟩ := migrate_cases h₀
    · exact .put hd₀ rfl
    · cases hcreated
  cases force with
  | false => exact hunforced s hd h
  | true => exact hunforced _ (hd.erase _) h

theorem Owned.madeIn (hm : m.Coherent) (h : m.Owned s) : m.MadeIn s := by
  induction h with
  | @made ops force report s h hcreated => exact madeIn_of_created (Store.distinct_run ops) h hcreated
  | obey _ registry c ih => exact ih.obey hm registry c
  | elsewhere _ hop ih => exact ih.elsewhere hop

end Model

end DataModel

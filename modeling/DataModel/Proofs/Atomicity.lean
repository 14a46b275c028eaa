import DataModel.Proofs.Integrity
import DataModel.Proofs.Program

/-!
# Failed operations leave no trace

An operation of the store or of a model that fails leaves every table as it was, with its columns, its defaults, its
rows in order and the number that comes next, although it changes the tables in place: whatever can fail is looked at
before anything is changed. Only saving several rows keeps those that were saved before the one that failed.
-/

namespace DataModel

open Program

namespace Model

variable (m : Model)

/-- Insert a row. -/
def createProgram (s : Surroundings) (row : Record) : Program ModelError Store Value := do
  let values ← require fun _ => m.prepare s .insert row
  EStateM.adaptExcept .store (Store.insertProgram m.tableName values)

/-- Change the rows that a request finds. -/
def updateWhereProgram (s : Surroundings) (q : Descriptor) (row : Record) : Program ModelError Store Nat := do
  let values ← require fun _ => m.prepare s .update (row.erase m.primaryKey)
  if values.isEmpty then return 0
  else
    let filter ← require fun _ => m.filter q
    EStateM.adaptExcept .store (Store.updateProgram m.tableName filter values)

/-- The request for the row with a primary key. -/
def byKey (id : Value) : Descriptor :=
  Descriptor.empty.narrowed (.compare m.primaryKey .eq id)

/-- Change the row whose primary key a row brings, or insert the row. -/
def saveProgram (s : Surroundings) (row : Record) : Program ModelError Store Value :=
  match row.get? m.primaryKey with
  | some id => do
    let _ ← m.updateWhereProgram s (m.byKey id) (row.erase m.primaryKey)
    return id
  | none => m.createProgram s row

/-- Remove the rows that a request finds. -/
def destroyWhereProgram (q : Descriptor) : Program ModelError Store Nat := do
  let filter ← require fun _ => m.filter q.includingTrashed
  EStateM.adaptExcept .store (Store.deleteProgram m.tableName filter)

/-- Delete the rows that a request finds. -/
def deleteWhereProgram (now : String) (q : Descriptor) : Program ModelError Store Nat :=
  if m.marksDeleted then do
    let filter ← require fun _ => m.filter q
    EStateM.adaptExcept .store (Store.updateProgram m.tableName filter [(deletedAt, .text now)])
  else m.destroyWhereProgram q

/-- Insert rows as they are. -/
def insertProgram (columns : List String) (rows : List (List Value)) : Program ModelError Store Nat := do
  columns.forM fun c => require fun _ => m.checkColumn c
  require fun _ => Handle.checkShape columns.length 0 rows
  EStateM.adaptExcept .store (Store.insertAllProgram m.tableName columns rows)

/-- Bring a table that is there in line. -/
def migrateExistingProgram : Program StoreError Store MigrationReport := do
  let live ← require fun s => s.describe m.tableName
  let d := diff Kind.name m live
  let report : MigrationReport := ⟨m.tableName, false, [], [], m.retained live⟩
  if d.isEmpty then return report
  else
    Store.alterProgram m.tableName d
    return { report with
      added := d.add.map ColumnDefinition.name
      changed := d.change.map ColumnDefinition.name }

/-- Bring the table in line, or make it. -/
def bringProgram : Program StoreError Store MigrationReport := do
  let there ← require fun s => .ok (s.hasTable m.tableName)
  if there then m.migrateExistingProgram
  else
    Store.createProgram m.table
    return ⟨m.tableName, true, [], [], []⟩

/-- Bring the table in line. With force it is dropped first and made anew. -/
def migrateProgram : Bool → Program ModelError Store MigrationReport
  | false => EStateM.adaptExcept (.migration m.tableName) m.bringProgram
  | true => do
    modify fun s => s.drop m.tableName
    EStateM.adaptExcept (.migration m.tableName) m.bringProgram

/-- Save rows one after the other. -/
def eachSaveProgram (s : Nat → Surroundings) (defaults : Record) :
    Nat → List Record → Program ModelError Store (List Value)
  | _, [] => return []
  | index, row :: rows => do
    let id ← EStateM.adaptExcept (Handle.atRow index)
      (m.saveProgram (s index) (Handle.withDefaults index defaults row))
    let ids ← eachSaveProgram s defaults (index + 1) rows
    return id :: ids

end Model

namespace Handle

variable {r : Registry} {m : Model}

theorem settles_ofStore {α : Type} {p : Program StoreError Store α} {f : Store → Except StoreError (α × Store)}
    (h : p.Settles f) : Settles (EStateM.adaptExcept ModelError.store p) fun s => Library.ofStore (f s) :=
  (h.adapt ModelError.store).congr fun s => by cases f s <;> rfl

theorem settles_create (s : Surroundings) (row : Record) :
    (m.createProgram s row).Settles fun store => (Handle.mk ⟨r, store⟩ m).create s row :=
  (checks_require _).bind fun _ => settles_ofStore (Store.settles_insert _ _)

theorem settles_updateWhere (s : Surroundings) (q : Descriptor) (row : Record) :
    (m.updateWhereProgram s q row).Settles fun store => (Handle.mk ⟨r, store⟩ m).updateWhere s q row := by
  refine (checks_require _).bind fun values => ?_
  cases values.isEmpty with
  | true => exact (always_pure 0).settles
  | false => exact (checks_require _).bind fun _ => settles_ofStore (Store.settles_update _ _ _)

theorem settles_save (s : Surroundings) (row : Record) :
    (m.saveProgram s row).Settles fun store => (Handle.mk ⟨r, store⟩ m).save s row := by
  unfold Model.saveProgram save
  dsimp only
  cases row.get? m.primaryKey with
  | none => exact settles_create s row
  | some id => exact (settles_updateWhere s _ _).bind fun _ => always_pure id

theorem settles_destroyWhere (q : Descriptor) :
    (m.destroyWhereProgram q).Settles fun store => (Handle.mk ⟨r, store⟩ m).destroyWhere q :=
  (checks_require _).bind fun _ => settles_ofStore (Store.settles_delete _ _)

theorem settles_deleteWhere (now : String) (q : Descriptor) :
    (m.deleteWhereProgram now q).Settles fun store => (Handle.mk ⟨r, store⟩ m).deleteWhere now q := by
  unfold Model.deleteWhereProgram deleteWhere
  dsimp only
  by_cases hm : m.marksDeleted = true
  · simp only [if_pos hm]
    exact (checks_require _).bind fun _ => settles_ofStore (Store.settles_update _ _ _)
  · simp only [if_neg hm]
    exact settles_destroyWhere q

theorem settles_insert (columns : List String) (rows : List (List Value)) :
    (m.insertProgram columns rows).Settles fun store => (Handle.mk ⟨r, store⟩ m).insert columns rows :=
  (checks_forM _ columns).bind fun _ => (checks_require _).bind fun _ => settles_ofStore (Store.settles_insertAll _ _ _)

theorem settles_migrateExisting : m.migrateExistingProgram.Settles m.migrateExisting := by
  refine (checks_require _).bind fun live => ?_
  dsimp only
  cases (Model.diff Kind.name m live).isEmpty with
  | true => exact (always_pure _).settles
  | false =>
    refine Settles.congr ((Store.settles_alter _ _).bind fun _ => always_pure _) fun s => ?_
    change (s.alter m.tableName (Model.diff Kind.name m live) >>= _) >>= _ =
      s.alter m.tableName (Model.diff Kind.name m live) >>= _
    cases s.alter m.tableName (Model.diff Kind.name m live) <;> rfl

/-- What a migration does once the table is not to be dropped. -/
theorem settles_bring : m.bringProgram.Settles fun s =>
    if s.hasTable m.tableName then m.migrateExisting s
    else s.create m.table >>= fun s => .ok (⟨m.tableName, true, [], [], []⟩, s) := by
  have hmake := (Store.settles_create m.table).bind fun _ =>
    always_pure (⟨m.tableName, true, [], [], []⟩ : MigrationReport)
  refine Settles.congr ((checks_require _).bind (g := fun there s => if there then m.migrateExisting s else
    (s.create m.table >>= fun s' => .ok ((), s')) >>= fun r => .ok (⟨m.tableName, true, [], [], []⟩, r.2)) ?_) ?_
  · rintro (there | there)
    · exact hmake
    · exact settles_migrateExisting
  · intro s
    change ite _ _ _ = ite _ _ _
    cases s.create m.table <;> rfl

theorem settles_migrate : (m.migrateProgram false).Settles fun store => (Handle.mk ⟨r, store⟩ m).migrate false := by
  refine Settles.congr (settles_bring.adapt (ModelError.migration m.tableName)) fun s => ?_
  unfold migrate Model.migrate
  simp only [Bool.false_eq_true, if_false]
  generalize (if s.hasTable m.tableName = true then _ else _ : Except StoreError (MigrationReport × Store)) = result
  cases result <;> rfl

/-- Saving several rows leaves those that were saved, also when one of them fails. -/
theorem run_eachSave (s : Nat → Surroundings) (defaults : Record) (index : Nat) (rows : List Record) (store : Store) :
    (m.eachSaveProgram s defaults index rows).run store =
      match (Handle.mk ⟨r, store⟩ m).eachSaveFrom s defaults index rows with
      | (.ok ids, store') => .ok ids store'
      | (.error e, store') => .error e store' := by
  induction rows generalizing index store with
  | nil => rfl
  | cons row rows ih =>
    have hsave := (settles_save (r := r) (m := m) (s index) (withDefaults index defaults row)).adapt (atRow index)
    unfold Model.eachSaveProgram eachSaveFrom
    rw [run_bind, hsave store]
    dsimp only
    cases (Handle.mk ⟨r, store⟩ m).save (s index) (withDefaults index defaults row) with
    | error e => rfl
    | ok saved =>
      change (m.eachSaveProgram s defaults (index + 1) rows >>= fun ids => pure (saved.1 :: ids)).run saved.2 = _
      rw [run_bind, ih]
      dsimp only
      cases (Handle.mk ⟨r, saved.2⟩ m).eachSaveFrom s defaults (index + 1) rows with
      | mk result store' => cases result <;> rfl

namespace Command

/-- Whether a command saves several rows one after the other. -/
def isSeries : Command → Bool
  | .plain (.eachSave _ _ _) => true
  | _ => false

/-- The commands in place. -/
def program (r : Registry) (m : Model) : Command → Program ModelError Store Unit
  | .plain (.get q) => discard (require fun s => (Handle.mk ⟨r, s⟩ m).get q)
  | .plain (.find id q) => discard (require fun s => (Handle.mk ⟨r, s⟩ m).find id q)
  | .plain (.count q) => discard (require fun s => (Handle.mk ⟨r, s⟩ m).count q)
  | .plain (.paginate q page size) => discard (require fun s => (Handle.mk ⟨r, s⟩ m).paginate q page size)
  | .plain (.create s row) => discard (m.createProgram s row)
  | .plain (.save s row) => discard (m.saveProgram s row)
  | .plain (.update s id row) => discard (m.updateWhereProgram s (m.byKey id) row)
  | .plain (.updateWhere s q row) => discard (m.updateWhereProgram s q row)
  | .plain (.eachSave s rows defaults) => discard (m.eachSaveProgram s defaults 0 rows)
  | .plain (.insert columns rows) => discard (m.insertProgram columns rows)
  | .plain (.delete now id) => discard (m.deleteWhereProgram now (m.byKey id))
  | .plain (.deleteWhere now q) => discard (m.deleteWhereProgram now q)
  | .plain .migrate => discard (m.migrateProgram false)
  | .destroy id => discard (m.destroyWhereProgram (m.byKey id))
  | .destroyWhere q => discard (m.destroyWhereProgram q)
  | .remake => discard (m.migrateProgram true)

end Command

theorem settles_discard {α : Type} {p : Program ModelError Store α} {f : Store → Except ModelError (α × Store)}
    (h : p.Settles f) : ∃ g, (discard p : Program ModelError Store Unit).Settles g ∧
      ∀ s, (Handle.mk ⟨r, s⟩ m).settled (g s) = (Handle.mk ⟨r, s⟩ m).settled (f s) := by
  refine ⟨_, h.bind fun _ => always_pure (), fun s => ?_⟩
  cases f s <;> rfl

theorem settles_reading {α : Type} (f : Store → Except ModelError α) :
    ∃ g, (discard (require f) : Program ModelError Store Unit).Settles g ∧
      ∀ s, (Handle.mk ⟨r, s⟩ m).settled (g s) = s := by
  refine ⟨_, (checks_require f).bind fun _ => (always_pure ()).settles, fun s => ?_⟩
  cases f s <;> rfl

/-- Every command settles but those that save several rows or make the table anew. -/
theorem settles_command {c : Command} (hseries : c.isSeries = false) (hremake : c ≠ .remake) :
    ∃ g, (c.program r m).Settles g ∧ ∀ s, (Handle.mk ⟨r, s⟩ m).settled (g s) = (Handle.mk ⟨r, s⟩ m).storeUnder c := by
  cases c with
  | plain op =>
    cases op with
    | get q => exact settles_reading _
    | find id q => exact settles_reading _
    | count q => exact settles_reading _
    | paginate q page size => exact settles_reading _
    | create s row => exact settles_discard (settles_create s row)
    | save s row => exact settles_discard (settles_save s row)
    | update s id row => exact settles_discard (settles_updateWhere s _ row)
    | updateWhere s q row => exact settles_discard (settles_updateWhere s q row)
    | eachSave s rows defaults => cases hseries
    | insert columns rows => exact settles_discard (settles_insert columns rows)
    | delete now id => exact settles_discard (settles_deleteWhere now _)
    | deleteWhere now q => exact settles_discard (settles_deleteWhere now q)
    | migrate => exact settles_discard settles_migrate
  | destroy id => exact settles_discard (settles_destroyWhere _)
  | destroyWhere q => exact settles_discard (settles_destroyWhere q)
  | remake => exact absurd rfl hremake

/-- To make the table anew cannot fail, since it is dropped first. -/
theorem run_remake {s : Store} (hd : Assoc.Distinct s.tables) :
    (Command.remake.program r m).run s = .ok () ((Handle.mk ⟨r, s⟩ m).storeUnder .remake) := by
  have hmade := Model.migrate_missing (m := m) (Model.hasTable_drop hd m.tableName)
  have hstore : (Handle.mk ⟨r, s⟩ m).storeUnder .remake = (s.drop m.tableName).put m.tableName (.ofDefinition m.table) := by
    change settled _ (m.migrate (s.drop m.tableName) false) = _
    rw [hmade]
    rfl
  have hrun := (settles_migrate (r := r)).run_ok (s := s.drop m.tableName) hmade
  have hprogram : (Command.remake.program r m).run s =
      (m.migrateProgram false >>= fun _ => pure ()).run (s.drop m.tableName) := rfl
  rw [hprogram, run_bind, hrun, hstore]
  rfl

/-- A command leaves in place what it leaves behind. -/
theorem final_program {c : Command} {s : Store} (hd : Assoc.Distinct s.tables) :
    (c.program r m).final s = (Handle.mk ⟨r, s⟩ m).storeUnder c := by
  by_cases hseries : c.isSeries = true
  · cases c with
    | plain op =>
      cases op with
      | eachSave sur rows defaults =>
        refine (final_discard _ s).trans ?_
        rw [final, run_eachSave (r := r)]
        change _ = ((Handle.mk ⟨r, s⟩ m).eachSaveFrom sur defaults 0 rows).2
        cases (Handle.mk ⟨r, s⟩ m).eachSaveFrom sur defaults 0 rows with
        | mk result s' => cases result <;> rfl
      | _ => cases hseries
    | _ => cases hseries
  by_cases hremake : c = .remake
  · subst hremake
    rw [final, run_remake hd]
  obtain ⟨g, hg, hstore⟩ := settles_command (r := r) (m := m) (Bool.eq_false_iff.2 hseries) hremake
  rw [hg.final, ← hstore s]
  cases g s <;> rfl

end Handle

namespace Table

variable {t : Table} {name : String} {columns : List String} {before after : List (List Value)} {values : List Value}

/-- What makes a table refuse a row of a batch that comes after some others: it has not a value for each column, it
cannot be made a row of the table, or its primary key is that of a row of the table or of one before it. -/
inductive RefusesRow (t : Table) (name : String) (columns : List String) (before : List (List Value))
    (values : List Value) : Prop
  | shape (h : values.length ≠ columns.length)
  | content (h : ∀ next result, t.build name (Assoc.ofPairs (columns.zip values)) next ≠ .ok result)
  | key {column key : String} {built : List Record} {next next' : Int} {row : Record}
      (hprimary : t.primaryKey = some column) (hbefore : t.buildAll name columns t.nextId before = .ok (built, next))
      (hrow : t.build name (Assoc.ofPairs (columns.zip values)) next = .ok (row, next'))
      (hkey : keyAt column row = some key) (htaken : key ∈ (t.rows ++ built).filterMap (keyAt column))

/-- A batch that is built is built row by row. -/
theorem exists_of_buildAll {next last : Int} {built : List Record}
    (h : t.buildAll name columns next (before ++ values :: after) = .ok (built, last)) :
    ∃ built' row rest middle next', built = built' ++ row :: rest ∧
      t.buildAll name columns next before = .ok (built', middle) ∧ values.length = columns.length ∧
      t.build name (Assoc.ofPairs (columns.zip values)) middle = .ok (row, next') := by
  induction before generalizing next built last with
  | nil =>
    obtain ⟨hlength, row, next', rest, hrow, -, rfl⟩ := buildAll_cons_eq_ok_iff.1 h
    exact ⟨[], row, rest, next, next', rfl, rfl, hlength, hrow⟩
  | cons first before ih =>
    obtain ⟨hlength, head, next₁, tail, hhead, htail, rfl⟩ := buildAll_cons_eq_ok_iff.1 h
    obtain ⟨built', row, rest, middle, next', rfl, hbefore, hvalues, hrow⟩ := ih htail
    exact ⟨head :: built', row, rest, middle, next', rfl,
      buildAll_cons_eq_ok_iff.2 ⟨hlength, head, next₁, built', hhead, hbefore, rfl⟩, hvalues, hrow⟩

/-- Keys that pass are new. -/
theorem not_mem_of_checkKeys {column key : String} {seen : List String} {earlier later : List Record} {row : Record}
    (h : checkKeys name column seen (earlier ++ row :: later) = .ok ()) (hkey : keyAt column row = some key) :
    key ∉ seen ++ earlier.filterMap (keyAt column) := by
  obtain ⟨hnodup, hnew⟩ := checkKeys_eq_ok_iff.1 h
  rw [List.filterMap_append, List.filterMap_cons_some hkey] at hnodup hnew
  rw [List.mem_append, not_or]
  refine ⟨hnew key (List.mem_append_right _ List.mem_cons_self), fun hearlier => ?_⟩
  exact (List.nodup_append.1 hnodup).2.2 key hearlier key List.mem_cons_self rfl

/-- A batch with a row that is refused is refused, wherever the row stands. -/
theorem insertAll_refused (h : t.RefusesRow name columns before values) {result : Nat × Table} :
    t.insertAll name columns (before ++ values :: after) ≠ .ok result := by
  intro hi
  obtain ⟨all, last, hall, hkeys, -, -⟩ := exists_of_insertAll hi
  obtain ⟨built', row', rest, middle, last', rfl, hbefore', hlength, hrow'⟩ := exists_of_buildAll hall
  cases h with
  | shape h => exact h hlength
  | content h => exact h _ _ hrow'
  | key hprimary hbefore hrow hkey htaken =>
    obtain ⟨rfl, rfl⟩ := Prod.mk.inj (Except.ok.inj (hbefore'.symm.trans hbefore))
    obtain ⟨rfl, rfl⟩ := Prod.mk.inj (Except.ok.inj (hrow'.symm.trans hrow))
    simp only [checkPrimaryKeys, hprimary] at hkeys
    rw [List.filterMap_append] at htaken
    exact not_mem_of_checkKeys hkeys hkey htaken

/-- A change with a column that is refused is refused, wherever the column stands. -/
theorem alter_refused {d : TableDiff}
    (h : (∃ c ∈ d.change, t.checkChange name c ≠ .ok ()) ∨ ∃ c ∈ d.add, t.checkAddition name c ≠ .ok ())
    {result : Table} : t.alter name d ≠ .ok result := by
  intro ha
  obtain ⟨hchange, hadd, -⟩ := eq_of_alter ha
  rcases h with ⟨c, hc, hrefused⟩ | ⟨c, hc, hrefused⟩
  · exact hrefused (hchange c hc)
  · exact hrefused (hadd c hc)

end Table

namespace Store

/-- In every store that operations make, an operation of the store or of a model that fails leaves no trace, unless it
saves several rows; carried out in place, both do what they do on the whole store. A batch with a row that is refused
and a change with a column that is refused fail, wherever the row or the column stands, and to make a table anew never
fails. -/
theorem failed_leaves_no_trace (ops : List Operation) (r : Registry) (m : Model) {s : Store} (hs : s = empty.run ops) :
    (∀ op : Operation, op.program.final s = s.step op ∧
        ∀ e s', op.program.run s = .error e s' → s' = s ∧ s.perform op = .error e) ∧
      (∀ c : Handle.Command, (c.program r m).final s = (Handle.mk ⟨r, s⟩ m).storeUnder c ∧
        (c.isSeries = false → ∀ e s', (c.program r m).run s = .error e s' → s' = s)) ∧
      (∀ e s', (Handle.Command.remake.program r m).run s ≠ .error e s') ∧
      ∀ name t, s.tables.get? name = some t →
        (∀ columns before values after, t.RefusesRow name columns before values →
          ∃ e, (insertAllProgram name columns (before ++ values :: after)).run s = .error e s) ∧
        ∀ d : TableDiff, ((∃ c ∈ d.change, t.checkChange name c ≠ .ok ()) ∨
            ∃ c ∈ d.add, t.checkAddition name c ≠ .ok ()) → ∃ e, (alterProgram name d).run s = .error e s := by
  have hd : Assoc.Distinct s.tables := hs ▸ distinct_run ops
  refine ⟨fun op => ⟨?_, fun e s' he => ?_⟩, fun c => ⟨Handle.final_program hd, fun hseries e s' he => ?_⟩,
    fun e s' he => ?_, fun name t ht => ⟨fun columns before values after hrow => ?_, fun d hcolumn => ?_⟩⟩
  · rw [(settles_program op).final, step]
    cases s.perform op <;> rfl
  · obtain ⟨hsame, hperform⟩ := (settles_program op).no_trace he
    refine ⟨hsame, ?_⟩
    cases hp : s.perform op with
    | ok s'' =>
      rw [hp] at hperform
      cases hperform
    | error e' =>
      rw [hp] at hperform
      rw [Except.error.inj hperform]
  · by_cases hremake : c = .remake
    · rw [hremake, Handle.run_remake hd] at he
      cases he
    · obtain ⟨g, hg, -⟩ := Handle.settles_command (r := r) (m := m) hseries hremake
      exact (hg.no_trace he).1
  · rw [Handle.run_remake hd] at he
    cases he
  · refine (settles_insertAll name columns _).run_error fun result hi => ?_
    obtain ⟨t', t'', ht', hi, -⟩ := exists_put hi
    rw [Option.some.inj (ht.symm.trans ht')] at hrow
    exact Table.insertAll_refused hrow hi
  · refine (settles_alter name d).run_error fun result ha => ?_
    obtain ⟨s', ha, -⟩ := bind_eq_ok_iff.1 ha
    obtain ⟨t', ht', ha⟩ := bind_eq_ok_iff.1 ha
    rw [Library.table?_eq_ok_iff, ht, Option.some.injEq] at ht'
    obtain ⟨t'', ha, -⟩ := bind_eq_ok_iff.1 ha
    exact Table.alter_refused (ht' ▸ hcolumn) ha

end Store

namespace Sample

/-- A batch whose second row has the key of its first one leaves no trace, not even in the number that comes next. -/
theorem batch_with_taken_key_refused :
    ∃ e, (Store.insertAllProgram "people" ["id", "name"]
      [[.int 7, .text "c"], [.text "7", .text "d"], [.null, .text "e"]]).run (Store.empty.run addingPeople) =
        .error e (Store.empty.run addingPeople) := by
  obtain ⟨-, -, -, hrefused⟩ := Store.failed_leaves_no_trace addingPeople ⟨[]⟩ person rfl
  exact (hrefused "people" _ rfl).1 ["id", "name"] [[.int 7, .text "c"]] [.text "7", .text "d"]
    [[.null, .text "e"]] (.key rfl rfl rfl rfl (by decide))

end Sample

end DataModel

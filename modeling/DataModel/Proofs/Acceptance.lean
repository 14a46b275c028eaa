import DataModel.Proofs.Freshness
import DataModel.Proofs.Intake
import DataModel.Proofs.Ownership

/-!
# What validation lets through

A row that has passed validation is inserted into a table that belongs to its model. All its columns are
columns of the table, so the table can refuse it for two reasons only: its primary key is there already, or it
leaves a null where there must be none. Validation looks for such nulls, but it does not see all of them: it
takes a null that is given for one that is missing and so for one that has a default, and it takes a primary
key that is not generated for one that may be missing when it is declared as nullable.
`Handle.create_refused_iff` puts the two together.
-/

namespace DataModel

namespace Model

variable {m : Model} {row values : Record} {sur : Surroundings} {c : Column}

/-- The nulls in a row to be inserted that the table of a model refuses and validation does not see. -/
inductive Overlooks (m : Model) (row : Record) (c : Column) : Prop
  /-- A null is given for a column with a default, which is taken only when nothing is given. -/
  | given (hkey : c.name ≠ m.primaryKey) (hnullable : c.nullable = false) (hdefault : c.default.isSome = true)
      (hcell : (m.known row).get? c.name = some .null) (hstamp : ¬ (m.timestamps = true ∧ c.name = updatedAt))
  /-- Nothing is given for a column of which the default is null. -/
  | default (hkey : c.name ≠ m.primaryKey) (hnullable : c.nullable = false) (hdefault : c.default = some .null)
      (hcell : (m.known row).get? c.name = none)
      (hstamp : ¬ (m.timestamps = true ∧ (c.name = createdAt ∨ c.name = updatedAt)))
  /-- No key is given, none is generated, and there is no default for it. -/
  | key (hkey : c.name = m.primaryKey) (hkind : c.kind ≠ .id) (hdefault : c.default.getD .null = .null)
      (hcell : (m.known row).cell c.name = .null)

namespace Coherent

variable {t : Table} (hmade : t.emptied = .ofDefinition m.table)
include hmade

theorem hasColumn_made {name : String} : t.hasColumn name = true ↔ name ∈ m.columnNames := by
  rw [Table.hasColumn_iff, ← m.columnNames_made, ← hmade]
  rfl

variable (hm : m.Coherent)
include hm

/-- A row that is built has a null where one is given or nothing is given and the default is null, unless the key is
generated. -/
theorem isNullAt_built (hc : c ∈ m.columns) (values : Record) (next : Int) :
    Record.isNullAt (t.withKey (t.complete values) next).1 c.name =
      ((values.null? c.name).getD (c.default.getD .null).isNull && !decide (c.name = m.primaryKey ∧ c.kind = .id)) := by
  have hprimary : t.primaryKey = some m.primaryKey := (congrArg Table.primaryKey hmade).trans hm.primaryKey_made
  have hdefault : t.defaults.get? c.name = c.default :=
    (congrArg (fun u : Table => u.defaults.get? c.name) hmade).trans (hm.defaults_made hc)
  have hcolumn : t.hasColumn c.name = true := (hasColumn_made hmade).2 (List.mem_map_of_mem hc)
  have hcomplete : (t.complete values).isNullAt c.name =
      (values.null? c.name).getD (c.default.getD .null).isNull := by
    rw [Record.isNullAt, Table.get?_complete values hcolumn, hdefault, Record.null?]
    cases values.get? c.name <;> rfl
  by_cases hkey : c.name = m.primaryKey
  · have hauto : t.autoIncrement = decide (c.kind = .id) :=
      (congrArg Table.autoIncrement hmade).trans (hm.autoIncrement_made hc hkey)
    rw [Table.isNullAt_withKey (hkey ▸ hprimary), hcomplete, hauto]
    simp [hkey]
  · have hne : t.primaryKey ≠ some c.name := fun he => hkey (Option.some.inj (he.symm.trans hprimary))
    rw [Record.isNullAt, Table.get?_withKey fun h => hne h.1]
    change (t.complete values).isNullAt c.name = _
    rw [hcomplete]
    simp [hkey]

end Coherent

namespace Completed

variable (hm : m.Completed)
include hm

theorem null?_key_iff (hrow : Assoc.Distinct row) (h : m.prepare sur .insert row = .ok values) (hc : c ∈ m.columns)
    (hkey : c.name = m.primaryKey) (hkind : c.kind ≠ .id) :
    (values.null? c.name).getD (c.default.getD .null).isNull = true ↔ m.Overlooks row c := by
  have hid : c.name = defaultPrimaryKey := hkey.trans (hm.defaultKey c hc hkey hkind)
  have hupdated : c.name ≠ updatedAt := by rw [hid]; decide
  have hcreated : c.name ≠ createdAt := by rw [hid]; decide
  have hcell : (values.null? c.name).getD (c.default.getD .null).isNull =
      ((m.known row).isNullAt c.name && (c.default.getD .null).isNull) := by
    rw [null?_of_prepare h, if_neg fun hs => hupdated hs.2, if_neg fun hs => hcreated hs.2, hkey,
      null?_withoutNullKey (distinct_known hrow), Record.isNullAt_eq]
    cases Record.null? (m.known row) m.primaryKey with
    | none => rfl
    | some b => cases b <;> rfl
  rw [hcell, Bool.and_eq_true, Record.isNullAt_iff, Value.isNull_iff]
  constructor
  · exact fun ⟨hnull, hdefault⟩ => .key hkey hkind hdefault hnull
  · rintro (⟨hne, -⟩ | ⟨hne, -⟩ | ⟨-, -, hdefault, hnull⟩)
    · exact absurd hkey hne
    · exact absurd hkey hne
    · exact ⟨hnull, hdefault⟩

/-- The table finds a null under another column when it is given and not replaced by the time of writing, or when
nothing is given and the default is null. -/
theorem null?_column_iff (h : m.prepare sur .insert row = .ok values) (hc : c ∈ m.columns)
    (hkey : c.name ≠ m.primaryKey) (hnullable : c.nullable = false) :
    (values.null? c.name).getD (c.default.getD .null).isNull = true ↔ m.Overlooks row c := by
  have hdefault := hm.isSome_default_of_prepare h hc hkey hnullable
  rw [null?_of_prepare h, null?_withoutNullKey_of_ne hkey]
  constructor
  · intro hnull
    by_cases hupdated : m.timestamps = true ∧ c.name = updatedAt
    · rw [if_pos hupdated] at hnull
      cases hnull
    rw [if_neg hupdated] at hnull
    cases hcell : (m.known row).get? c.name with
    | some v =>
      have hv : v.isNull = true := by
        rw [Record.null?, hcell] at hnull
        split at hnull <;> exact hnull
      rw [Value.isNull_iff.1 hv] at hcell
      exact .given hkey hnullable (hdefault (by rw [Record.isNullAt, hcell]; rfl)) hcell hupdated
    | none =>
      rw [Record.null?_eq_none_iff.2 hcell] at hnull
      split at hnull
      next => cases hnull
      next hcreated =>
        obtain ⟨v, hv⟩ := Option.isSome_iff_exists.1 (hdefault (by rw [Record.isNullAt, hcell]))
        have hnull' : v.isNull = true := by rwa [hv] at hnull
        rw [Value.isNull_iff.1 hnull'] at hv
        exact .default hkey hnullable hv hcell fun hs => hs.2.elim (hcreated ⟨hs.1, ·⟩) (hupdated ⟨hs.1, ·⟩)
  · rintro (⟨-, -, -, hcell, hstamp⟩ | ⟨-, -, hnone, hcell, hstamp⟩ | ⟨hkey', -⟩)
    · rw [if_neg hstamp, Record.null?_eq_some_true_iff.2 hcell]
      split <;> rfl
    · rw [if_neg fun hs => hstamp ⟨hs.1, Or.inr hs.2⟩, if_neg fun hs => hstamp ⟨hs.1, Or.inl hs.2⟩,
        Record.null?_eq_none_iff.2 hcell, hnone]
      rfl
    · exact absurd hkey' hkey

/-- Where the table finds a null in a row that has passed validation, it finds one that was overlooked. -/
theorem isNullAt_built_iff (hrow : Assoc.Distinct row) (h : m.prepare sur .insert row = .ok values) {t : Table}
    (hmade : t.emptied = .ofDefinition m.table) (hc : c ∈ m.columns) (next : Int) :
    (m.definition c).nullable = false ∧ Record.isNullAt (t.withKey (t.complete values) next).1 c.name = true ↔
      m.Overlooks row c := by
  rw [nullable_definition, Coherent.isNullAt_built hmade hm.toCoherent hc, Bool.and_eq_true, Bool.not_eq_true',
    decide_eq_false_iff_not]
  by_cases hkey : c.name = m.primaryKey
  · by_cases hkind : c.kind = .id
    · -- the key is generated
      refine iff_of_false (fun hnull => hnull.2.2 ⟨hkey, hkind⟩) ?_
      rintro (⟨hne, -⟩ | ⟨hne, -⟩ | ⟨-, hne, -⟩)
      · exact hne hkey
      · exact hne hkey
      · exact hne hkind
    · rw [← hm.null?_key_iff hrow h hc hkey hkind]
      exact ⟨fun hnull => hnull.2.1, fun hnull => ⟨Or.inl hkey, hnull, fun hid => hkind hid.2⟩⟩
  · constructor
    · rintro ⟨hnullable, hnull, -⟩
      exact (hm.null?_column_iff h hc hkey (hnullable.resolve_left hkey)).1 hnull
    · intro ho
      have hnullable : c.nullable = false := by
        rcases ho with ⟨-, hnullable, -⟩ | ⟨-, hnullable, -⟩ | ⟨hkey', -⟩
        · exact hnullable
        · exact hnullable
        · exact absurd hkey' hkey
      exact ⟨Or.inr hnullable, (hm.null?_column_iff h hc hkey hnullable).2 ho, fun hid => hkey hid.1⟩

end Completed

end Model

namespace Table

variable {t : Table} {name : String} {values : Record} {e : StoreError}

theorem exists_of_checkNulls_eq_error {row : Record} {columns : List LiveColumn}
    (h : checkNulls name row columns = .error e) :
    ∃ l ∈ columns, l.nullable = false ∧ row.isNullAt l.name = true ∧ e = .constraint (.nullCell name l.name) := by
  induction columns with
  | nil => cases h
  | cons l columns ih =>
    unfold checkNulls at h
    split at h
    next hnull =>
      rw [Bool.and_eq_true, Bool.not_eq_true'] at hnull
      exact ⟨l, List.mem_cons_self, hnull.1, hnull.2, (Except.error.inj h).symm⟩
    next =>
      obtain ⟨l', hl', hnull⟩ := ih h
      exact ⟨l', List.mem_cons_of_mem l hl', hnull⟩

theorem isDuplicate_of_checkKeys {column : String} {seen : List String} {rows : List Record}
    (h : checkKeys name column seen rows = .error e) : e.IsDuplicate := by
  induction rows generalizing seen with
  | nil => cases h
  | cons row rows ih =>
    unfold checkKeys at h
    split at h
    · exact ih h
    · split at h
      · exact ⟨_, _, _, (Except.error.inj h).symm⟩
      · exact ih h

theorem isDuplicate_of_checkPrimaryKeys {rows : List Record} (h : t.checkPrimaryKeys name rows = .error e) :
    e.IsDuplicate := by
  unfold checkPrimaryKeys at h
  split at h
  · cases h
  · exact isDuplicate_of_checkKeys h

theorem insert_eq_error (hcolumns : ∀ c ∈ values.keys, t.hasColumn c = true) (h : t.insert name values = .error e) :
    checkNulls name (t.withKey (t.complete values) t.nextId).1 t.columns = .error e ∨ e.IsDuplicate := by
  have hchecked : t.checkColumns name values.keys = .ok () := checkColumns_eq_ok_iff.2 hcolumns
  rcases bind_eq_error_iff.1 h with h | ⟨_, -, h⟩
  · rcases bind_eq_error_iff.1 h with h | ⟨_, -, h⟩
    · cases hchecked.symm.trans h
    rcases bind_eq_error_iff.1 h with h | ⟨_, -, h⟩
    · exact Or.inl h
    · cases h
  · rcases bind_eq_error_iff.1 h with h | ⟨_, -, h⟩
    · exact Or.inr (isDuplicate_of_checkPrimaryKeys h)
    · cases h

theorem insert_of_checkNulls (hcolumns : ∀ c ∈ values.keys, t.hasColumn c = true)
    (h : checkNulls name (t.withKey (t.complete values) t.nextId).1 t.columns = .error e) :
    t.insert name values = .error e := by
  have hbuild : t.build name values t.nextId = .error e :=
    bind_eq_error_iff.2 (Or.inr ⟨(), checkColumns_eq_ok_iff.2 hcolumns, bind_eq_error_iff.2 (Or.inl h)⟩)
  exact bind_eq_error_iff.2 (Or.inl hbuild)

end Table

theorem Library.ofStore_eq_error_iff {α : Type} {result : Except StoreError α} {e : StoreError} :
    ofStore result = .error (.store e) ↔ result = .error e := by
  cases result with
  | ok a => exact ⟨nofun, nofun⟩
  | error e' => simp [ofStore]

/-- The table refuses a row that validation has let through when there is an overlooked null in it, and otherwise only
for its key. -/
theorem Model.Completed.insert_refused_iff {m : Model} (hm : m.Completed) {sur : Surroundings} {row values : Record}
    (hrow : Assoc.Distinct row) (h : m.prepare sur .insert row = .ok values) {t : Table}
    (hmade : t.emptied = .ofDefinition m.table) :
    (∀ e, t.insert m.tableName values = .error e →
      e.IsDuplicate ∨ ∃ c ∈ m.columns, m.Overlooks row c ∧ e = .constraint (.nullCell m.tableName c.name)) ∧
      ((∃ c ∈ m.columns, m.Overlooks row c) →
        ∃ column, t.insert m.tableName values = .error (.constraint (.nullCell m.tableName column))) := by
  have hcolumns : t.columns = m.liveColumns := congrArg Table.columns hmade
  have hkeys : ∀ c ∈ values.keys, t.hasColumn c = true := fun c hc =>
    (Model.Coherent.hasColumn_made hmade).2 (hm.mem_columnNames_of_prepare h hc)
  have hoverlooked := fun (c : Column) (hc : c ∈ m.columns) => hm.isNullAt_built_iff hrow h hmade hc t.nextId
  refine ⟨fun e he => (Table.insert_eq_error hkeys he).symm.imp_right fun hnulls => ?_, ?_⟩
  · obtain ⟨l, hl, hforbidden, hnull, rfl⟩ := Table.exists_of_checkNulls_eq_error hnulls
    rw [hcolumns] at hl
    obtain ⟨d, hd, rfl⟩ := List.mem_map.1 hl
    obtain ⟨c, hc, rfl⟩ := List.mem_map.1 hd
    have hname : (LiveColumn.ofDefinition (m.definition c)).name = c.name := m.name_definition c
    rw [hname] at hnull ⊢
    exact ⟨c, hc, (hoverlooked c hc).1 ⟨hforbidden, hnull⟩, rfl⟩
  · rintro ⟨c, hc, ho⟩
    obtain ⟨hforbidden, hnull⟩ := (hoverlooked c hc).2 ho
    cases hnulls : Table.checkNulls m.tableName (t.withKey (t.complete values) t.nextId).1 t.columns with
    | error e =>
      obtain ⟨l, -, -, -, rfl⟩ := Table.exists_of_checkNulls_eq_error hnulls
      exact ⟨l.name, Table.insert_of_checkNulls hkeys hnulls⟩
    | ok u =>
      -- the column of the null is one of those that were looked at
      have hl : LiveColumn.ofDefinition (m.definition c) ∈ t.columns :=
        hcolumns ▸ List.mem_map_of_mem (List.mem_map_of_mem hc)
      have hpresent := Table.checkNulls_eq_ok_iff.1 hnulls _ hl hforbidden
      rw [show (LiveColumn.ofDefinition (m.definition c)).name = c.name from m.name_definition c, hnull] at hpresent
      cases hpresent

namespace Handle

/-- To create a row fails in the store when the row has passed validation and the table refuses it. -/
theorem create_eq_store_iff {h : Handle} {t : Table}
    (ht : h.library.store.tables.get? h.model.tableName = some t) {sur : Surroundings} {row : Record} {e : StoreError} :
    h.create sur row = .error (.store e) ↔
      ∃ values, h.model.prepare sur .insert row = .ok values ∧ t.insert h.model.tableName values = .error e := by
  have htable : h.library.store.table? h.model.tableName = .ok t := Library.table?_eq_ok_iff.2 ht
  have hinsert (values : Record) :
      h.library.store.insert h.model.tableName values = .error e ↔ t.insert h.model.tableName values = .error e := by
    have hput : h.library.store.insert h.model.tableName values =
        (t.insert h.model.tableName values >>= fun r => .ok (r.1, h.library.store.put h.model.tableName r.2)) := by
      rw [Store.insert, htable]
      rfl
    rw [hput]
    refine bind_eq_error_iff.trans ⟨fun hi => hi.resolve_right ?_, Or.inl⟩
    rintro ⟨_, -, hi⟩
    cases hi
  refine bind_eq_error_iff.trans ((or_iff_right Model.prepare_ne_store).trans (exists_congr fun values => ?_))
  rw [Library.ofStore_eq_error_iff, hinsert]

/-- What validation lets through, the table of the model takes, as long as the table belongs to the model; it refuses
a key that is there already, and the nulls that validation overlooks, all of them and no others. What validation
demands is never left to the store. -/
theorem create_refused_iff {name source : String} {declared : Metadata} {m : Model}
    (hresolve : Model.resolve name source declared = .ok m) {s : Store} (hs : m.Owned s) (registry : Registry)
    (sur : Surroundings) {row : Record} (hrow : Assoc.Distinct row) :
    (∀ e, (Handle.mk ⟨registry, s⟩ m).create sur row = .error (.store e) →
      e.IsDuplicate ∨ ∃ c ∈ m.columns, m.Overlooks row c ∧ e = .constraint (.nullCell m.tableName c.name)) ∧
      ((∃ column, (Handle.mk ⟨registry, s⟩ m).create sur row =
          .error (.store (.constraint (.nullCell m.tableName column)))) ↔
        (∃ values, m.prepare sur .insert row = .ok values) ∧ ∃ c ∈ m.columns, m.Overlooks row c) ∧
      ∀ c ∈ m.columns, m.demands c = true → (m.known row).cell c.name = .null →
        ∃ errors, (Handle.mk ⟨registry, s⟩ m).create sur row = .error (.validation errors) ∧
          c.name ∈ errors.columns := by
  have hm := Model.completed_of_resolved hresolve
  obtain ⟨t, ht, hmade⟩ := (hs.madeIn hm.toCoherent).table
  have hstore {e : StoreError} : (Handle.mk ⟨registry, s⟩ m).create sur row = .error (.store e) ↔
      ∃ values, m.prepare sur .insert row = .ok values ∧ t.insert m.tableName values = .error e :=
    create_eq_store_iff (h := ⟨⟨registry, s⟩, m⟩) ht
  refine ⟨fun e he => ?_, ⟨?_, ?_⟩, fun c hc hdemands hcell => ?_⟩
  · obtain ⟨values, hvalues, hinsert⟩ := hstore.1 he
    exact (hm.insert_refused_iff hrow hvalues hmade).1 e hinsert
  · rintro ⟨column, he⟩
    obtain ⟨values, hvalues, hinsert⟩ := hstore.1 he
    rcases (hm.insert_refused_iff hrow hvalues hmade).1 _ hinsert with ⟨_, _, _, hduplicate⟩ | ⟨c, hc, ho, -⟩
    · cases hduplicate
    · exact ⟨⟨values, hvalues⟩, c, hc, ho⟩
  · rintro ⟨⟨values, hvalues⟩, hoverlooked⟩
    obtain ⟨column, hinsert⟩ := (hm.insert_refused_iff hrow hvalues hmade).2 hoverlooked
    exact ⟨column, hstore.2 ⟨values, hvalues, hinsert⟩⟩
  · obtain ⟨errors, hprepare, hmem⟩ := Model.prepare_of_demands sur hrow hc hdemands hcell
    exact ⟨errors, bind_eq_error_iff.2 (Or.inl hprepare), hmem⟩

end Handle

namespace Sample

/-- Tokens are known by texts of their own. -/
def declaredToken : Metadata :=
  { name := "token"
    table := ⟨"tokens", none⟩
    columns := [.added "id" "uuid" true, .added "label" "string" true]
    relations := []
    options := ⟨false, false⟩ }

def token : Model :=
  resolved declaredToken

/-- A store with nothing but the new table of a model. -/
def newStore (m : Model) : Store :=
  Store.empty.put m.tableName (.ofDefinition m.table)

theorem owned_newStore (m : Model) : m.Owned (newStore m) :=
  .made (Model.migrate_missing rfl : m.migrate (Store.empty.run []) false = .ok (_, newStore m)) rfl

def surroundings : Surroundings :=
  ⟨"2025-01-01", [], 4⟩

/-- An order that is said to be nothing passes validation and is refused by the store. An order of which nothing is
said is taken, and so is one that is closed, unless its number is there already. -/
theorem order_without_status_refused :
    (∃ column, (Handle.mk ⟨⟨[]⟩, newStore order⟩ order).create surroundings [("status", .null)] =
        .error (.store (.constraint (.nullCell "orders" column)))) ∧
      ∀ e, (Handle.mk ⟨⟨[]⟩, newStore order⟩ order).create surroundings [("status", .text "closed")] =
        .error (.store e) → e.IsDuplicate := by
  have hnull : Assoc.Distinct [("status", Value.null)] := List.nodup_singleton "status"
  have hclosed : Assoc.Distinct [("status", Value.text "closed")] := List.nodup_singleton "status"
  constructor
  · refine (Handle.create_refused_iff resolve_order (owned_newStore order) ⟨[]⟩ surroundings hnull).2.1.2
      ⟨⟨_, rfl⟩, _, List.mem_cons_of_mem _ List.mem_cons_self, ?_⟩
    exact .given (by decide) rfl rfl rfl (by decide)
  · intro e he
    have hrefused := (Handle.create_refused_iff resolve_order (owned_newStore order) ⟨[]⟩ surroundings hclosed).1 e he
    refine hrefused.resolve_right ?_
    rintro ⟨c, hc, ho, -⟩
    rcases List.mem_cons.1 hc with rfl | hc
    · rcases ho with ⟨hne, -⟩ | ⟨hne, -⟩ | ⟨-, hne, -⟩
      · exact hne rfl
      · exact hne rfl
      · exact hne rfl
    rcases List.mem_pair.1 hc with rfl | rfl
    · rcases ho with ⟨-, -, -, hcell, -⟩ | ⟨-, -, hdefault, -⟩ | ⟨hkey, -⟩
      · cases hcell
      · cases hdefault
      · exact absurd hkey (by decide)
    · rcases ho with ⟨-, hnullable, -⟩ | ⟨-, hnullable, -⟩ | ⟨hkey, -⟩
      · cases hnullable
      · cases hnullable
      · exact absurd hkey (by decide)

/-- Validation lets two rows through that the store refuses for a null: one with a null for a column with a default,
and one without a key of its own. -/
theorem overlooked_nulls_refused :
    (Model.resolve "order" "" (declaredOrder "open") = .ok order ∧ order.Owned (newStore order) ∧
      (∃ values, order.prepare surroundings .insert [("status", .null)] = .ok values) ∧
      (Handle.mk ⟨⟨[]⟩, newStore order⟩ order).create surroundings [("status", .null)] =
        .error (.store (.constraint (.nullCell "orders" "status")))) ∧
      Model.resolve "token" "" declaredToken = .ok token ∧ token.Owned (newStore token) ∧
      (∃ values, token.prepare surroundings .insert [("label", .text "a")] = .ok values) ∧
      (Handle.mk ⟨⟨[]⟩, newStore token⟩ token).create surroundings [("label", .text "a")] =
        .error (.store (.constraint (.nullCell "tokens" "id"))) :=
  ⟨⟨rfl, owned_newStore order, ⟨_, rfl⟩, rfl⟩, rfl, owned_newStore token, ⟨_, rfl⟩, rfl⟩

end Sample

end DataModel

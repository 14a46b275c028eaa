import DataModel.Proofs.Rejection

/-!
# The names that a model gives to the store

A model names columns to the store in lists of columns, in orders, in filters and their guard against deleted rows, in
rows, and in the times that it writes. All of them are its own: what a row brings under another name is dropped, and a
request that uses another name is refused before it gets to the store. So a store that has a table with the columns of
the model, whatever else the table has, refuses no command for a table or a column that is not there. All that it can
refuse is a row to insert that breaks a constraint.
-/

namespace DataModel

/-- Whether a failure of the store is a broken constraint. -/
def StoreError.IsConstraint (e : StoreError) : Prop :=
  ∃ c, e = .constraint c

/-- Whether a failure, if it is one of the store, is a broken constraint. -/
def ModelError.OnlyConstraint (e : ModelError) : Prop :=
  ∀ e', e = .store e' → e'.IsConstraint

theorem FailsWith.of_ok {α ε : Type} {P : ε → Prop} {x : Except ε α} {a : α} (h : x = .ok a) : FailsWith P x :=
  h ▸ .ok a

theorem StoreError.IsDuplicate.isConstraint {e : StoreError} (h : e.IsDuplicate) : e.IsConstraint := by
  obtain ⟨name, column, key, rfl⟩ := h
  exact ⟨_, rfl⟩

namespace Table

variable {t : Table} {name : String} {P : StoreError → Prop}

theorem failsWith_checkColumns {columns : List String} (h : ∀ c ∈ columns, t.hasColumn c = true) :
    FailsWith P (t.checkColumns name columns) :=
  .of_ok (checkColumns_eq_ok_iff.2 h)

theorem failsWith_checkNulls (row : Record) (columns : List LiveColumn) :
    FailsWith StoreError.IsConstraint (checkNulls name row columns) := by
  intro e he
  obtain ⟨l, -, -, -, rfl⟩ := exists_of_checkNulls_eq_error he
  exact ⟨_, rfl⟩

theorem failsWith_checkPrimaryKeys (rows : List Record) :
    FailsWith StoreError.IsConstraint (t.checkPrimaryKeys name rows) :=
  fun _ he => (isDuplicate_of_checkPrimaryKeys he).isConstraint

theorem failsWith_build {values : Record} (h : ∀ c ∈ values.keys, t.hasColumn c = true) (next : Int) :
    FailsWith StoreError.IsConstraint (t.build name values next) :=
  (failsWith_checkColumns h).bind fun _ _ => (failsWith_checkNulls _ _).bind fun _ _ => .ok _

theorem failsWith_insert {values : Record} (h : ∀ c ∈ values.keys, t.hasColumn c = true) :
    FailsWith StoreError.IsConstraint (t.insert name values) :=
  (failsWith_build h _).bind fun _ _ => (failsWith_checkPrimaryKeys _).bind fun _ _ => .ok _

theorem failsWith_buildAll {columns : List String} (h : ∀ c ∈ columns, t.hasColumn c = true) (next : Int)
    (rows : List (List Value)) : FailsWith StoreError.IsConstraint (t.buildAll name columns next rows) := by
  induction rows generalizing next with
  | nil => exact .ok _
  | cons values rows ih =>
    unfold buildAll
    split
    · exact .error ⟨_, rfl⟩
    · refine (failsWith_build (fun c hc => h c ?_) next).bind fun _ _ => (ih _).bind fun _ _ => .ok _
      rcases Assoc.mem_keys_extend.1 hc with hc | hc
      · cases hc
      · obtain ⟨⟨c', v⟩, hc', rfl⟩ := List.mem_map.1 hc
        exact (List.of_mem_zip hc').1

theorem failsWith_insertAll {columns : List String} (h : ∀ c ∈ columns, t.hasColumn c = true)
    (rows : List (List Value)) : FailsWith StoreError.IsConstraint (t.insertAll name columns rows) :=
  (failsWith_buildAll h _ rows).bind fun _ _ => (failsWith_checkPrimaryKeys _).bind fun _ _ => .ok _

theorem failsWith_update {filter : List Where} {values : Record}
    (hfilter : ∀ c ∈ columnsOfAll filter, t.hasColumn c = true) (h : ∀ c ∈ values.keys, t.hasColumn c = true) :
    FailsWith P (t.update name filter values) :=
  (failsWith_checkColumns hfilter).bind fun _ _ => (failsWith_checkColumns h).bind fun _ _ => .ok _

theorem failsWith_delete {filter : List Where} (h : ∀ c ∈ columnsOfAll filter, t.hasColumn c = true) :
    FailsWith P (t.delete name filter) :=
  (failsWith_checkColumns h).bind fun _ _ => .ok _

theorem failsWith_count {filter : List Where} (h : ∀ c ∈ columnsOfAll filter, t.hasColumn c = true) :
    FailsWith P (t.count name filter) :=
  (failsWith_checkColumns h).bind fun _ _ => .ok _

theorem failsWith_select {s : Selection} (hfilter : ∀ c ∈ columnsOfAll s.filter, t.hasColumn c = true)
    (hcolumns : ∀ c ∈ s.columns, t.hasColumn c = true) (horders : ∀ o ∈ s.orders, t.hasColumn o.column = true) :
    FailsWith P (t.select name s) :=
  (failsWith_checkColumns hfilter).bind fun _ _ => (failsWith_checkColumns hcolumns).bind fun _ _ =>
    (failsWith_checkColumns (List.forall_mem_map.2 horders)).bind fun _ _ => .ok _

end Table

namespace Model

variable {m : Model} {q : Descriptor} {s s' : Store}

/-- Whether a store has a table for a model, with at least the columns of the model. -/
def CoveredIn (m : Model) (s : Store) : Prop :=
  ∃ t, s.tables.get? m.tableName = some t ∧ ∀ c ∈ m.columnNames, t.hasColumn c = true

namespace CoveredIn

theorem touches (hs : m.CoveredIn s) (h : m.Touches s s') : m.CoveredIn s' := by
  obtain ⟨t, ht, hcolumns⟩ := hs
  obtain ⟨t', rfl, hsame⟩ := h.exists_table ht
  refine ⟨t', Assoc.get?_insert_self _ _ _, fun c hc => ?_⟩
  have hcolumn : t'.emptied.hasColumn c = t.emptied.hasColumn c := by rw [hsame]
  exact hcolumn.trans (hcolumns c hc)

theorem touches_all (hs : m.CoveredIn s) (h : Relation.ReflTransGen m.Touches s s') : m.CoveredIn s' := by
  induction h with
  | refl => exact hs
  | tail _ hstep ih => exact ih.touches hstep

/-- What is done with the table of the model fails as it does with a table that has the columns of the model. -/
theorem failsWith_table {α : Type} {P : StoreError → Prop} (hs : m.CoveredIn s) {f : Table → Except StoreError α}
    (hf : ∀ t : Table, (∀ c ∈ m.columnNames, t.hasColumn c = true) → FailsWith P (f t)) :
    FailsWith P (s.table? m.tableName >>= f) := by
  obtain ⟨t, ht, hcolumns⟩ := hs
  rw [Library.table?_eq_ok_iff.2 ht]
  exact hf t hcolumns

end CoveredIn

/-- The filter that is handed to the store names columns of the model. -/
theorem names_filter {f : List Where} (h : m.filter q = .ok f) : ∀ c ∈ Table.columnsOfAll f, c ∈ m.columnNames := by
  obtain ⟨hwheres, rfl⟩ := filter_eq_ok_iff.1 h
  intro c hc
  refine hasColumnIn_iff.1 ?_
  split at hc
  next hguards =>
    rcases mem_columnsOfAll_guarded.1 hc with hc | rfl
    · exact hwheres c hc
    · simp only [guards, marksDeleted, Bool.and_eq_true] at hguards
      exact hguards.1.2
  next => exact hwheres c hc

/-- What is handed to the store for a request names columns of the model. -/
theorem names_selection {keys : List String} {selection : Selection} (h : m.selection q keys = .ok selection)
    (hkeys : ∀ k ∈ keys, k ∈ m.columnNames) :
    (∀ c ∈ selection.columns, c ∈ m.columnNames) ∧ (∀ o ∈ selection.orders, o.column ∈ m.columnNames) ∧
      ∀ c ∈ Table.columnsOfAll selection.filter, c ∈ m.columnNames := by
  obtain ⟨hselect, horders, f, hf, rfl⟩ := selection_eq_ok_iff.1 h
  refine ⟨fun c hc => ?_, fun o ho => hasColumnIn_iff.1 (horders o ho), names_filter hf⟩
  rw [withKeys_eq] at hc
  split at hc
  · cases hc
  · rcases List.mem_append.1 hc with hc | hc
    · exact hasColumnIn_iff.1 (hselect c hc)
    · exact hkeys c (List.mem_filter.1 (List.mem_eraseDups.1 hc)).1

theorem IsMissing.onlyConstraint {e : ModelError} (h : m.IsMissing e) : e.OnlyConstraint := by
  obtain ⟨column, -, rfl⟩ := h
  exact nofun

theorem onlyConstraint_filter (m : Model) (q : Descriptor) : FailsWith ModelError.OnlyConstraint (m.filter q) :=
  (m.failsWith_filter q).mono fun _ he => he.onlyConstraint

theorem onlyConstraint_prepare (m : Model) (sur : Surroundings) (writing : Writing) (row : Record) :
    FailsWith ModelError.OnlyConstraint (m.prepare sur writing row) :=
  fun _ he _ heq => absurd (heq ▸ he) prepare_ne_store

end Model

theorem Library.failsWith_ofStore {α : Type} {x : Except StoreError α} (h : FailsWith StoreError.IsConstraint x) :
    FailsWith ModelError.OnlyConstraint (ofStore x) := by
  rintro _ he e' rfl
  exact h e' (ofStore_eq_error_iff.1 he)

namespace Handle

variable {h : Handle} {q : Descriptor}

section

variable (hs : h.model.CoveredIn h.library.store)
include hs

theorem onlyConstraint_get (hq : q.withs = []) : FailsWith ModelError.OnlyConstraint (h.get q) := by
  rw [get, Library.run_of_no_loads hq]
  refine ((h.model.failsWith_selection q _).mono fun _ he => he.onlyConstraint).bind fun selection hselection => ?_
  have hkeys : q.neededKeys h.model = [] := by rw [Descriptor.neededKeys, hq]; rfl
  obtain ⟨hcolumns, horders, hfilter⟩ := Model.names_selection hselection (by simp [hkeys])
  exact Library.failsWith_ofStore (hs.failsWith_table fun t ht => Table.failsWith_select
    (fun c hc => ht c (hfilter c hc)) (fun c hc => ht c (hcolumns c hc)) fun o ho => ht _ (horders o ho))

theorem onlyConstraint_find (hq : q.withs = []) (id : Value) : FailsWith ModelError.OnlyConstraint (h.find id q) := by
  have hget : FailsWith ModelError.OnlyConstraint (h.get { (h.byId id q).limitedTo 1 with offset := none }) :=
    onlyConstraint_get hs hq
  refine hget.bind fun rows _ => ?_
  cases rows with
  | nil => exact .error nofun
  | cons row rows => exact .ok row

theorem onlyConstraint_count (q : Descriptor) : FailsWith ModelError.OnlyConstraint (h.count q) :=
  (h.model.onlyConstraint_filter q).bind fun _ hf => Library.failsWith_ofStore (hs.failsWith_table fun _ ht =>
    Table.failsWith_count fun c hc => ht c (Model.names_filter hf c hc))

theorem onlyConstraint_paginate (hq : q.withs = []) (number size : UInt64) :
    FailsWith ModelError.OnlyConstraint (h.paginate q number size) := by
  refine (onlyConstraint_count hs q).bind fun total _ => FailsWith.bind ?_ fun _ _ => .ok _
  unfold Library.pageRows
  split
  · split
    · exact onlyConstraint_get hs hq
    · exact .ok _
  · exact .ok _

theorem onlyConstraint_destroyWhere (q : Descriptor) : FailsWith ModelError.OnlyConstraint (h.destroyWhere q) :=
  (h.model.onlyConstraint_filter _).bind fun _ hf => Library.failsWith_ofStore (hs.failsWith_table fun _ ht =>
    (Table.failsWith_delete fun c hc => ht c (Model.names_filter hf c hc)).bind fun _ _ => .ok _)

theorem onlyConstraint_deleteWhere (now : String) (q : Descriptor) :
    FailsWith ModelError.OnlyConstraint (h.deleteWhere now q) := by
  unfold deleteWhere
  split
  next hmarks =>
    have hdeleted : deletedAt ∈ h.model.columnNames := by
      simp only [Model.marksDeleted, Bool.and_eq_true] at hmarks
      exact Model.hasColumnIn_iff.1 hmarks.2
    refine (h.model.onlyConstraint_filter q).bind fun _ hf => Library.failsWith_ofStore (hs.failsWith_table fun _ ht =>
      (Table.failsWith_update (fun c hc => ht c (Model.names_filter hf c hc)) fun c hc => ht c ?_).bind
        fun _ _ => .ok _)
    rw [List.mem_singleton.1 hc]
    exact hdeleted
  next => exact onlyConstraint_destroyWhere hs q

theorem onlyConstraint_insert (columns : List String) (rows : List (List Value)) :
    FailsWith ModelError.OnlyConstraint (h.insert columns rows) := by
  have hshape : ∀ (index : Nat) (rows : List (List Value)),
      FailsWith ModelError.OnlyConstraint (checkShape columns.length index rows) := by
    intro index rows
    induction rows generalizing index with
    | nil => exact .ok ()
    | cons values rows ih =>
      unfold checkShape
      split
      · exact ih _
      · exact .error nofun
  refine ((FailsWith.forM fun c _ => h.model.failsWith_checkColumn c).mono fun _ he => he.onlyConstraint).bind
    fun _ hcolumns => (hshape 0 rows).bind fun _ _ => Library.failsWith_ofStore (hs.failsWith_table fun _ ht =>
      (Table.failsWith_insertAll (fun c hc => ht c ?_) rows).bind fun _ _ => .ok _)
  exact Model.hasColumnIn_iff.1 (Model.checkColumn_eq_ok_iff.1 (forM_eq_ok_iff.1 hcolumns c hc))

variable (hm : h.model.Completed)
include hm

theorem onlyConstraint_create (sur : Surroundings) (row : Record) :
    FailsWith ModelError.OnlyConstraint (h.create sur row) :=
  (h.model.onlyConstraint_prepare sur .insert row).bind fun _ hvalues =>
    Library.failsWith_ofStore (hs.failsWith_table fun _ ht =>
      (Table.failsWith_insert fun c hc => ht c (hm.mem_columnNames_of_prepare hvalues hc)).bind fun _ _ => .ok _)

theorem onlyConstraint_updateWhere (sur : Surroundings) (q : Descriptor) (row : Record) :
    FailsWith ModelError.OnlyConstraint (h.updateWhere sur q row) := by
  refine (h.model.onlyConstraint_prepare sur .update _).bind fun values hvalues => ?_
  split
  · exact .ok _
  · exact (h.model.onlyConstraint_filter q).bind fun _ hf => Library.failsWith_ofStore (hs.failsWith_table fun _ ht =>
      (Table.failsWith_update (fun c hc => ht c (Model.names_filter hf c hc)) fun c hc =>
        ht c (hm.mem_columnNames_of_prepare hvalues hc)).bind fun _ _ => .ok _)

theorem onlyConstraint_save (sur : Surroundings) (row : Record) :
    FailsWith ModelError.OnlyConstraint (h.save sur row) := by
  unfold save
  split
  · exact (onlyConstraint_updateWhere hs hm sur _ _).bind fun _ _ => .ok _
  · exact onlyConstraint_create hs hm sur row

end

theorem onlyConstraint_atRow {e : ModelError} (he : e.OnlyConstraint) (index : Nat) :
    (atRow index e).OnlyConstraint := by
  cases e with
  | validation errors => exact nofun
  | _ => exact he

/-- The table has the columns of the model after each of several rows is saved. -/
theorem onlyConstraint_eachSaveFrom (hs : h.model.CoveredIn h.library.store) (hm : h.model.Completed)
    (s : Nat → Surroundings) (defaults : Record) (index : Nat) (rows : List Record) :
    FailsWith ModelError.OnlyConstraint (h.eachSaveFrom s defaults index rows).1 := by
  -- every row meets the store that the rows before it left, so the store is general in the induction
  induction rows generalizing h index with
  | nil => exact .ok _
  | cons row rows ih =>
    unfold eachSaveFrom
    split
    next e he => exact .error (onlyConstraint_atRow (onlyConstraint_save hs hm _ _ e he) index)
    next id store hsave =>
      have hafter : h.model.CoveredIn store :=
        hs.touches_all (Model.Writes.touches_all (save_writes hsave).to_reflTransGen)
      have hrest := ih (h := { h with library := { h.library with store } }) hafter hm (index + 1)
      split
      next => exact .ok _
      next heq => rwa [heq] at hrest

/-- The eager-loads of a command. -/
def Command.loads : Command → List (String × With Descriptor)
  | .plain (.get q) | .plain (.find _ q) | .plain (.paginate q _ _) => q.withs
  | _ => []

theorem failureOf_eq_some_iff {α : Type} {result : Except ModelError α} {e : ModelError} :
    failureOf result = some e ↔ result = .error e := by
  cases result <;> simp [failureOf]

/-- A command of a model that reads documents fails in the store for a broken constraint only. -/
theorem onlyConstraint_of_failure (hs : h.model.CoveredIn h.library.store) (hm : h.model.Completed) {c : Command}
    (hmigrate : c.isMigration = false) (hloads : c.loads = []) {e : ModelError} (hf : h.failure? c = some e) :
    e.OnlyConstraint := by
  cases c with
  | plain op =>
    cases op with
    | get q => exact onlyConstraint_get hs hloads e (failureOf_eq_some_iff.1 hf)
    | find id q => exact onlyConstraint_find hs hloads id e (failureOf_eq_some_iff.1 hf)
    | count q => exact onlyConstraint_count hs q e (failureOf_eq_some_iff.1 hf)
    | paginate q number size => exact onlyConstraint_paginate hs hloads number size e (failureOf_eq_some_iff.1 hf)
    | create sur row => exact onlyConstraint_create hs hm sur row e (failureOf_eq_some_iff.1 hf)
    | save sur row => exact onlyConstraint_save hs hm sur row e (failureOf_eq_some_iff.1 hf)
    | update sur id row => exact onlyConstraint_updateWhere hs hm sur _ row e (failureOf_eq_some_iff.1 hf)
    | updateWhere sur q row => exact onlyConstraint_updateWhere hs hm sur q row e (failureOf_eq_some_iff.1 hf)
    | eachSave s rows defaults =>
      exact onlyConstraint_eachSaveFrom hs hm s defaults 0 rows e (failureOf_eq_some_iff.1 hf)
    | insert columns rows => exact onlyConstraint_insert hs columns rows e (failureOf_eq_some_iff.1 hf)
    | delete now id => exact onlyConstraint_deleteWhere hs now _ e (failureOf_eq_some_iff.1 hf)
    | deleteWhere now q => exact onlyConstraint_deleteWhere hs now q e (failureOf_eq_some_iff.1 hf)
    | migrate => cases hmigrate
  | destroy id => exact onlyConstraint_destroyWhere hs _ e (failureOf_eq_some_iff.1 hf)
  | destroyWhere q => exact onlyConstraint_destroyWhere hs q e (failureOf_eq_some_iff.1 hf)
  | remake => cases hmigrate

end Handle

namespace Model

variable {m : Model}

/-- A row without what it brings under names that are no columns of the model. -/
def restricted (m : Model) (row : Record) : Record :=
  row.filter fun e => m.hasColumn e.1

theorem restricted_cons (m : Model) (e : String × Value) (row : Record) :
    m.restricted (e :: row) = if m.hasColumn e.1 then e :: m.restricted row else m.restricted row :=
  List.filter_cons

theorem known_restricted (m : Model) (row : Record) : m.known (m.restricted row) = m.known row := by
  rw [known, restricted, List.filterMap_filter, known]
  refine List.filterMap_congr fun e _ => ?_
  split
  next => rfl
  next hnot =>
    have hnone : m.column? e.1 = none := by
      rw [column?, List.find?_eq_none]
      intro c hc hname
      exact hnot (List.any_eq_true.2 ⟨c, hc, hname⟩)
    rw [hnone]
    rfl

theorem get?_restricted {name : String} (hname : m.hasColumn name = true) (row : Record) :
    (m.restricted row).get? name = row.get? name := by
  induction row with
  | nil => rfl
  | cons e row ih =>
    obtain ⟨key, v⟩ := e
    rw [restricted_cons]
    split
    · rw [Assoc.get?_cons, Assoc.get?_cons, ih]
    next hnot =>
      rw [ih, Assoc.get?_cons, if_neg]
      rintro rfl
      exact hnot hname

theorem erase_restricted {name : String} (hname : m.hasColumn name = true) (row : Record) :
    (m.restricted row).erase name = m.restricted (row.erase name) := by
  induction row with
  | nil => rfl
  | cons e row ih =>
    obtain ⟨key, v⟩ := e
    rw [restricted_cons, Assoc.erase]
    by_cases hkey : key = name
    · rw [if_pos (hkey ▸ hname), if_pos hkey, Assoc.erase, if_pos hkey]
    · rw [if_neg hkey, restricted_cons, ← ih]
      split
      · rw [Assoc.erase, if_neg hkey]
      · rfl

theorem insert_restricted (m : Model) (row : Record) (name : String) (v : Value) :
    m.restricted (row.insert name v) =
      if m.hasColumn name then (m.restricted row).insert name v else m.restricted row := by
  induction row with
  | nil => exact restricted_cons m (name, v) []
  | cons e row ih =>
    obtain ⟨key, w⟩ := e
    rw [Assoc.insert, restricted_cons]
    by_cases hkey : key = name
    · rw [if_pos hkey, restricted_cons, ← hkey]
      by_cases hcolumn : m.hasColumn key = true
      · rw [if_pos hcolumn, if_pos hcolumn, if_pos hcolumn, Assoc.insert, if_pos rfl]
      · rw [if_neg hcolumn, if_neg hcolumn, if_neg hcolumn]
    · rw [if_neg hkey, restricted_cons, ih]
      by_cases hcolumn : m.hasColumn key = true
      · rw [if_pos hcolumn, if_pos hcolumn, Assoc.insert, if_neg hkey]
        split <;> rfl
      · rw [if_neg hcolumn, if_neg hcolumn]

/-- What a row brings under other names is dropped before anything is looked at. -/
theorem prepare_restricted (m : Model) (sur : Surroundings) (writing : Writing) (row : Record) :
    m.prepare sur writing (m.restricted row) = m.prepare sur writing row := by
  rw [prepare, known_restricted, prepare]

theorem withDefaults_cons (index : Nat) (e : String × Value) (defaults row : Record) :
    Handle.withDefaults index (e :: defaults) row = Handle.withDefaults index defaults
      (if row.has e.1 then row else row.insert e.1 (Handle.defaultFor index e.2)) :=
  rfl

theorem withDefaults_restricted (m : Model) (index : Nat) (defaults row : Record) :
    Handle.withDefaults index (m.restricted defaults) (m.restricted row) =
      m.restricted (Handle.withDefaults index defaults row) := by
  -- a default that is filled in counts as given for the next one, so the row is general in the induction
  induction defaults generalizing row with
  | nil => rfl
  | cons e defaults ih =>
    rw [withDefaults_cons, ← ih, restricted_cons]
    by_cases hcolumn : m.hasColumn e.1 = true
    · have hhas : Assoc.has (m.restricted row) e.1 = row.has e.1 := by
        rw [Assoc.has, get?_restricted hcolumn, Assoc.has]
      rw [if_pos hcolumn, withDefaults_cons, hhas]
      split
      · rfl
      · rw [insert_restricted, if_pos hcolumn]
    · rw [if_neg hcolumn]
      split
      · rfl
      · rw [insert_restricted, if_neg hcolumn]

/-- Whether what is handed to the store for a model names nothing but its columns: a request that names others is
refused with the name of one of them, and rows are prepared without them. -/
structure NamesOwn (m : Model) : Prop where
  filter : ∀ q, m.Misses (m.filter q) ∨ ∃ f, m.filter q = .ok f ∧ ∀ c ∈ Table.columnsOfAll f, c ∈ m.columnNames
  selection : ∀ q, q.withs = [] → m.Misses (m.selection q (q.neededKeys m)) ∨
    ∃ s, m.selection q (q.neededKeys m) = .ok s ∧ (∀ c ∈ s.columns, c ∈ m.columnNames) ∧
      (∀ o ∈ s.orders, o.column ∈ m.columnNames) ∧ ∀ c ∈ Table.columnsOfAll s.filter, c ∈ m.columnNames
  rows : ∀ sur writing row values, m.prepare sur writing row = .ok values → ∀ c ∈ values.keys, c ∈ m.columnNames

theorem Completed.namesOwn (hm : m.Completed) : m.NamesOwn where
  filter q := by
    cases hf : m.filter q with
    | ok f => exact Or.inr ⟨f, rfl, names_filter hf⟩
    | error e => exact Or.inl (hf ▸ misses_of_failsWith (m.failsWith_filter q) (by simp [hf]))
  selection q hq := by
    cases hs : m.selection q (q.neededKeys m) with
    | ok s => exact Or.inr ⟨s, rfl, names_selection hs (by simp [Descriptor.neededKeys, hq])⟩
    | error e => exact Or.inl (hs ▸ misses_of_failsWith (m.failsWith_selection q _) (by simp [hs]))
  rows sur writing row values h c hc := hm.mem_columnNames_of_prepare h hc

end Model

namespace Handle

variable {h : Handle}

/-- Whether what a row brings under names that are no columns of the model makes no difference. -/
structure DropsOthers (h : Handle) : Prop where
  create : ∀ sur row, h.create sur (h.model.restricted row) = h.create sur row
  save : ∀ sur row, h.save sur (h.model.restricted row) = h.save sur row
  update : ∀ sur id row, h.update sur id (h.model.restricted row) = h.update sur id row
  updateWhere : ∀ sur q row, h.updateWhere sur q (h.model.restricted row) = h.updateWhere sur q row
  eachSave : ∀ s rows defaults,
    h.eachSave s (rows.map h.model.restricted) (h.model.restricted defaults) = h.eachSave s rows defaults

theorem create_restricted (sur : Surroundings) (row : Record) :
    h.create sur (h.model.restricted row) = h.create sur row := by
  rw [create, Model.prepare_restricted, create]

section

variable (hkey : h.model.hasColumn h.model.primaryKey = true)
include hkey

theorem updateWhere_restricted (sur : Surroundings) (q : Descriptor) (row : Record) :
    h.updateWhere sur q (h.model.restricted row) = h.updateWhere sur q row := by
  rw [updateWhere, Model.erase_restricted hkey, Model.prepare_restricted, updateWhere]

theorem save_restricted (sur : Surroundings) (row : Record) : h.save sur (h.model.restricted row) = h.save sur row := by
  unfold save
  rw [Model.get?_restricted hkey]
  split
  next id _ => rw [update, Model.erase_restricted hkey, updateWhere_restricted hkey, update]
  next => exact create_restricted sur row

end

theorem eachSaveFrom_restricted (hkey : h.model.hasColumn h.model.primaryKey = true) (s : Nat → Surroundings)
    (defaults : Record) (index : Nat) (rows : List Record) :
    h.eachSaveFrom s (h.model.restricted defaults) index (rows.map h.model.restricted) =
      h.eachSaveFrom s defaults index rows := by
  induction rows generalizing h index with
  | nil => rfl
  | cons row rows ih =>
    rw [List.map_cons, eachSaveFrom, Model.withDefaults_restricted, save_restricted hkey, eachSaveFrom]
    split
    next => rfl
    next id store _ => rw [ih (h := { h with library := { h.library with store } }) hkey]

theorem dropsOthers (hkey : h.model.hasColumn h.model.primaryKey = true) : h.DropsOthers where
  create := create_restricted
  save := save_restricted hkey
  update sur _ row := updateWhere_restricted hkey sur _ row
  updateWhere := updateWhere_restricted hkey
  eachSave s rows defaults := eachSaveFrom_restricted hkey s defaults 0 rows

/-- A store that has a table with the columns of a model, whatever else the table has, refuses no command of the model
for a table or a column that is not there; what it refuses breaks a constraint. For, whatever the store, what is handed
to it names columns of the model only: other names in rows are dropped, and other names in requests and among the
columns of rows that are inserted as they are are refused before. -/
theorem store_knows_every_name {name source : String} {declared : Metadata} {m : Model}
    (hresolve : Model.resolve name source declared = .ok m) :
    (∀ (registry : Registry) (s : Store) (t : Table), s.tables.get? m.tableName = some t →
      (∀ c ∈ m.columnNames, t.hasColumn c = true) → ∀ c : Command, c.isMigration = false → c.loads = [] →
        ∀ e, (Handle.mk ⟨registry, s⟩ m).failure? c = some (.store e) → e.IsConstraint) ∧
      m.NamesOwn ∧
      ∀ library : Library, (Handle.mk library m).DropsOthers ∧
        ∀ columns rows, m.Lacks columns → m.Misses ((Handle.mk library m).insert columns rows) := by
  have hm := Model.completed_of_resolved hresolve
  refine ⟨fun registry s t ht hcolumns c hmigrate hloads e he => ?_, hm.namesOwn, fun library => ⟨?_, ?_⟩⟩
  · exact onlyConstraint_of_failure ⟨t, ht, hcolumns⟩ hm hmigrate hloads he e rfl
  · exact dropsOthers (Model.hasColumnIn_iff.2 hm.primary)
  · intro columns rows hlacks
    exact (Model.misses_of_failsWith (FailsWith.forM fun c _ => m.failsWith_checkColumn c) fun _ hall =>
      hlacks.not_all fun c hc => Model.checkColumn_eq_ok_iff.1 (forM_eq_ok_iff.1 hall c hc)).bind _

end Handle

namespace Sample

/-- The table of orders with a weight, which the model does not know of. -/
def weighedOrders : Table :=
  (Table.ofDefinition order.table).addColumn (order.definition (column "weight"))

/-- Orders in such a table. -/
def weighed : Handle :=
  ⟨⟨⟨[]⟩, Store.empty.put order.tableName weighedOrders⟩, order⟩

/-- An order that is said to be nothing is refused for that, an order that is said to be urgent is created as one of
which nothing is said, and an urgency cannot be inserted as it is. -/
theorem urgency_dropped_or_refused :
    (∃ e, weighed.failure? (.plain (.create surroundings [("urgent", .int 1), ("status", .null)])) = some (.store e) ∧
      e.IsConstraint) ∧
      weighed.create surroundings [] = weighed.create surroundings [("urgent", .int 1)] ∧
      order.Misses (weighed.insert ["urgent"] [[.int 1]]) := by
  have hcolumns : ∀ c ∈ order.columnNames, weighedOrders.hasColumn c = true := by decide
  obtain ⟨hfailure, -, hlibrary⟩ := Handle.store_knows_every_name resolve_order
  obtain ⟨hdrops, hinsert⟩ := hlibrary weighed.library
  refine ⟨⟨_, rfl, hfailure ⟨[]⟩ weighed.library.store weighedOrders rfl hcolumns
    (.plain (.create surroundings [("urgent", .int 1), ("status", .null)])) rfl rfl _ rfl⟩, ?_, ?_⟩
  · exact hdrops.create surroundings [("urgent", .int 1)]
  · exact hinsert ["urgent"] [[.int 1]] ⟨"urgent", List.mem_singleton_self _, rfl⟩

end Sample

end DataModel

import DataModel.Migration
import DataModel.Proofs.Resolution

/-! The columns of a model that is read from a document have different names, and its primary key is one of them.
The table that is made for such a model has one column for each of the model's, and the model's primary key. -/

namespace DataModel

namespace Model

variable {m : Model}

/-- Whether the columns of a model have different names and the primary key is one of them. -/
structure Coherent (m : Model) : Prop where
  names : m.columnNames.Nodup
  primary : m.primaryKey ∈ m.columnNames

theorem hasColumnIn_iff {columns : List Column} {name : String} :
    hasColumnIn columns name = true ↔ name ∈ columns.map Column.name := by
  simp [hasColumnIn, List.mem_map]

theorem nodup_of_checkColumns {table : String} {seen : List String} {columns : List ColumnDeclaration}
    (h : checkColumns table seen columns = .ok ()) (hseen : seen.Nodup) :
    (seen ++ columns.map ColumnDeclaration.name).Nodup := by
  induction columns generalizing seen with
  | nil => simpa using hseen
  | cons c columns ih =>
    unfold checkColumns at h
    split at h
    · cases h
    split at h
    · cases h
    next hc =>
      have hnew : c.name ∉ seen := by simpa using hc
      rw [List.map_cons, List.perm_middle.nodup_iff]
      exact ih h (List.nodup_cons.2 ⟨hnew, hseen⟩)

theorem name_of_ofDeclaration {c : ColumnDeclaration} {implicit : Bool} {column : Column}
    (h : Column.ofDeclaration c implicit = .ok column) : column.name = c.name := by
  unfold Column.ofDeclaration at h
  split at h
  · cases h
  split at h
  · cases h
  · rw [ok_eq_ok_iff.1 h]

/-- The columns of declarations have the declared names. -/
theorem names_of_mapM {implicit : Bool} {declarations : List ColumnDeclaration} {columns : List Column}
    (h : declarations.mapM (fun c => Column.ofDeclaration c implicit) = .ok columns) :
    columns.map Column.name = declarations.map ColumnDeclaration.name := by
  induction declarations generalizing columns with
  | nil =>
    rw [List.mapM_nil] at h
    rw [ok_eq_ok_iff.1 h]
    rfl
  | cons c declarations ih =>
    rw [List.mapM_cons] at h
    obtain ⟨column, hcolumn, h⟩ := bind_eq_ok_iff.1 h
    obtain ⟨rest, hrest, h⟩ := bind_eq_ok_iff.1 h
    rw [ok_eq_ok_iff.1 h, List.map_cons, List.map_cons, name_of_ofDeclaration hcolumn, ih hrest]

/-- Where the names differ, the item that is found under the name of an item is the item itself. -/
theorem find?_name {α : Type} {name : α → String} {items : List α} (hnames : (items.map name).Nodup) {a : α}
    (ha : a ∈ items) : items.find? (fun b => name b = name a) = some a := by
  cases hfind : items.find? (fun b => name b = name a) with
  | none => exact absurd (decide_eq_true rfl) (List.find?_eq_none.1 hfind a ha)
  | some b =>
    have hname : name b = name a := by simpa using List.find?_some hfind
    rw [List.inj_on_of_nodup_map hnames (List.mem_of_find?_eq_some hfind) ha hname]

theorem name_of_column? {m : Model} {name : String} {c : Column} (h : m.column? name = some c) : c.name = name := by
  simpa using List.find?_some h

/-- The default primary key is not the name of a column for a time. -/
theorem primaryKeyOf_mem {columns : List Column}
    (h : primaryKeyOf columns ∈ [createdAt, updatedAt, deletedAt]) :
    primaryKeyOf columns ∈ columns.map Column.name := by
  unfold primaryKeyOf at h ⊢
  split
  next c hc => exact List.mem_map_of_mem (List.mem_of_find?_eq_some hc)
  next hnone =>
    rw [hnone] at h
    exact absurd h (by decide)

/-- What is added has different names: the primary key is added only when it is none of the declared columns, and
then it is not one of the columns for times. -/
theorem nodup_missing (columns : List Column) (options : ModelOptions) :
    (((additions (primaryKeyOf columns) options).filter fun c => !hasColumnIn columns c.name).map
      ColumnDeclaration.name).Nodup := by
  have hsub : ((additions (primaryKeyOf columns) options).map ColumnDeclaration.name).Sublist
      [primaryKeyOf columns, createdAt, updatedAt, deletedAt] := by
    unfold additions
    cases options.timestamps <;> cases options.softDeletes <;> simp [ColumnDeclaration.added]
  by_cases hkey : primaryKeyOf columns ∈ [createdAt, updatedAt, deletedAt]
  · have hdeclared := primaryKeyOf_mem hkey
    have hmissing : ((additions (primaryKeyOf columns) options).map ColumnDeclaration.name).filter
        (fun name => !hasColumnIn columns name) |>.Sublist [createdAt, updatedAt, deletedAt] := by
      refine (hsub.filter _).trans ?_
      rw [List.filter_cons_of_neg (by simp [hasColumnIn_iff.2 hdeclared])]
      exact List.filter_sublist
    rw [List.filter_map] at hmissing
    exact hmissing.nodup (by decide)
  · exact ((List.filter_sublist.map _).trans hsub).nodup (List.nodup_cons.2 ⟨hkey, by decide⟩)

/-- The columns of a model that is read from a document have different names, since what is added is not declared;
and the primary key is declared or added. -/
theorem coherent_of_resolved {name source : String} {declared : Metadata} (h : resolve name source declared = .ok m) :
    m.Coherent := by
  rw [resolve, check_bind_eq_ok_iff] at h
  obtain ⟨hcheck, h⟩ := h
  obtain ⟨columns, hcolumns, h⟩ := bind_eq_ok_iff.1 h
  obtain ⟨added, hadded, h⟩ := bind_eq_ok_iff.1 h
  have hm := ok_eq_ok_iff.1 h
  have hprimary : m.primaryKey = primaryKeyOf columns := by rw [hm]
  have hnames : m.columnNames = columns.map Column.name ++ added.map Column.name := by
    rw [hm, columnNames, List.map_append]
  rw [names_of_mapM hadded] at hnames
  refine ⟨?_, ?_⟩
  · unfold check at hcheck
    split at hcheck
    · cases hcheck
    have hdeclared : (columns.map Column.name).Nodup := by
      rw [names_of_mapM hcolumns]
      exact nodup_of_checkColumns hcheck List.nodup_nil
    rw [hnames]
    refine hdeclared.append (nodup_missing columns declared.options) ?_
    intro c hc hmissing
    obtain ⟨d, hd, rfl⟩ := List.mem_map.1 hmissing
    have hnot := (List.mem_filter.1 hd).2
    rw [hasColumnIn_iff.2 hc] at hnot
    cases hnot
  · rw [hnames, hprimary, List.mem_append]
    by_cases hin : primaryKeyOf columns ∈ columns.map Column.name
    · exact Or.inl hin
    · refine Or.inr (List.mem_map.2 ⟨.added (primaryKeyOf columns) "ID" false, List.mem_filter.2 ⟨?_, ?_⟩, rfl⟩)
      · exact List.mem_append_left _ (List.mem_append_left _ List.mem_cons_self)
      · have hnot : hasColumnIn columns (primaryKeyOf columns) = false := by
          rw [Bool.eq_false_iff, ne_eq, hasColumnIn_iff]
          exact hin
        rw [ColumnDeclaration.added, hnot]
        rfl

/-- A model that is read from a document marks deleted rows exactly when its options say so: the column for
the mark is declared or added. -/
theorem marksDeleted_of_resolve {name source : String} {declared : Metadata} {m : Model}
    (h : resolve name source declared = .ok m) : m.marksDeleted = m.softDeletes := by
  rw [resolve, check_bind_eq_ok_iff] at h
  obtain ⟨columns, hcolumns, h⟩ := bind_eq_ok_iff.1 h.2
  obtain ⟨added, hadded, h⟩ := bind_eq_ok_iff.1 h
  have hm := ok_eq_ok_iff.1 h
  rw [marksDeleted]
  cases hs : m.softDeletes with
  | false => rfl
  | true =>
    rw [Bool.true_and, hasColumn, hm, hasColumnIn, List.any_append]
    by_cases hd : hasColumnIn columns deletedAt = true
    · rw [hasColumnIn] at hd
      rw [hd, Bool.true_or]
    · -- the column is not declared, so it is among the added ones
      have hoptions : declared.options.softDeletes = true := by
        rw [← hs, hm]
        rfl
      have hmem : ColumnDeclaration.added deletedAt "timestamp" true ∈
          (additions (primaryKeyOf columns) declared.options).filter fun c => !hasColumnIn columns c.name := by
        refine List.mem_filter.2 ⟨?_, by simpa [ColumnDeclaration.added] using hd⟩
        simp [additions, hoptions]
      obtain ⟨column, hcolumn, hof⟩ := exists_of_mapM_eq_ok hadded hmem
      have hname : column.name = deletedAt := name_of_ofDeclaration hof
      rw [Bool.or_eq_true, List.any_eq_true, List.any_eq_true]
      exact Or.inr ⟨column, hcolumn, by simpa using hname⟩

theorem name_definition (m : Model) (c : Column) : (m.definition c).name = c.name := by
  unfold definition
  split <;> rfl

theorem kind_definition (m : Model) (c : Column) : (m.definition c).kind = c.kind := by
  unfold definition
  split <;> rfl

theorem default_definition (m : Model) (c : Column) : (m.definition c).default = c.default := by
  unfold definition
  split <;> rfl

/-- The table allows nulls where the model does, except in the primary key. -/
theorem nullable_definition {c : Column} :
    (m.definition c).nullable = false ↔ c.name = m.primaryKey ∨ c.nullable = false := by
  unfold definition
  split
  next hc => exact iff_of_true rfl (Or.inl hc)
  next hc => exact (or_iff_right hc).symm

theorem primary_definition {c : Column} : (m.definition c).primary = true ↔ c.name = m.primaryKey := by
  unfold definition
  split
  next hc => exact ⟨fun _ => hc, fun _ => rfl⟩
  next hc => exact ⟨fun hp => Bool.noConfusion hp, fun he => absurd he hc⟩

/-- The columns of the table that is made for a model. -/
def liveColumns (m : Model) : List LiveColumn :=
  m.definitions.map LiveColumn.ofDefinition

theorem names_definitions (m : Model) : m.definitions.map ColumnDefinition.name = m.columnNames := by
  rw [definitions, List.map_map]
  exact List.map_congr_left fun c _ => m.name_definition c

namespace Coherent

/-- Of the columns of the table that is made for a model only the primary key is marked as primary. -/
theorem find?_primary (h : m.Coherent) {c : Column} (hc : c ∈ m.columns) (hkey : c.name = m.primaryKey) :
    m.definitions.find? ColumnDefinition.primary = some (m.definition c) := by
  cases hfind : m.definitions.find? ColumnDefinition.primary with
  | none => exact absurd (primary_definition.2 hkey) (List.find?_eq_none.1 hfind _ (List.mem_map_of_mem hc))
  | some d =>
    obtain ⟨e, he, rfl⟩ := List.mem_map.1 (List.mem_of_find?_eq_some hfind)
    have hname : e.name = c.name := (primary_definition.1 (List.find?_some hfind)).trans hkey.symm
    rw [List.inj_on_of_nodup_map h.names he hc hname]

/-- The primary key of the table that is made for a model is the model's. -/
theorem primaryKey_made (h : m.Coherent) : (Table.ofDefinition m.table).primaryKey = some m.primaryKey := by
  obtain ⟨c, hc, hname⟩ := List.mem_map.1 h.primary
  change (m.definitions.find? ColumnDefinition.primary).map ColumnDefinition.name = _
  rw [h.find?_primary hc hname, Option.map_some, name_definition, hname]

/-- It is generated when it is of the kind for keys. -/
theorem autoIncrement_made (h : m.Coherent) {c : Column} (hc : c ∈ m.columns) (hkey : c.name = m.primaryKey) :
    (Table.ofDefinition m.table).autoIncrement = decide (c.kind = .id) := by
  change (m.definitions.find? ColumnDefinition.primary).any _ = _
  rw [h.find?_primary hc hkey, Option.any_some, kind_definition]

/-- The defaults of the table are those of the model's columns. -/
theorem defaults_made (h : m.Coherent) {c : Column} (hc : c ∈ m.columns) :
    (Table.ofDefinition m.table).defaults.get? c.name = c.default := by
  have hnames : (m.definitions.map ColumnDefinition.name).Nodup := m.names_definitions ▸ h.names
  rw [← name_definition m c, ← default_definition m c]
  exact Assoc.get?_ofPairs_filterMap hnames (List.mem_map_of_mem hc)

/-- Of a name there is one column. -/
theorem column?_eq (h : m.Coherent) {c : Column} (hc : c ∈ m.columns) : m.column? c.name = some c :=
  find?_name h.names hc

end Coherent

theorem fields_of_ofDeclaration {c : ColumnDeclaration} {implicit : Bool} {column : Column}
    (h : Column.ofDeclaration c implicit = .ok column) :
    column.nullable = c.nullable ∧ column.implicit = implicit := by
  unfold Column.ofDeclaration at h
  split at h
  · cases h
  split at h
  · cases h
  · rw [ok_eq_ok_iff.1 h]
    exact ⟨rfl, rfl⟩

/-- Of the columns that are added only the primary key is not nullable. -/
theorem name_of_mem_additions {key : String} {options : ModelOptions} {d : ColumnDeclaration}
    (hd : d ∈ additions key options) (hnull : d.nullable = false) : d.name = key := by
  rcases List.mem_append.1 hd with hd | hd
  · rcases List.mem_append.1 hd with hd | hd
    · rw [List.mem_singleton.1 hd]
      rfl
    · split at hd
      · rw [List.mem_pair] at hd
        rcases hd with rfl | rfl <;> cases hnull
      · cases hd
  · split at hd
    · rw [List.mem_singleton.1 hd] at hnull
      cases hnull
    · cases hd

/-- What else holds of a model that is read from a document. It has the columns for the times that it keeps, of the
columns that are added only the primary key is not nullable, and a primary key of another kind than the one that is
made for keys is the default one. -/
structure Completed (m : Model) : Prop extends Coherent m where
  stamps : m.timestamps = true → m.hasColumn createdAt = true ∧ m.hasColumn updatedAt = true
  implicit : ∀ c ∈ m.columns, c.implicit = true → c.nullable = false → c.name = m.primaryKey
  defaultKey : ∀ c ∈ m.columns, c.name = m.primaryKey → c.kind ≠ .id → m.primaryKey = defaultPrimaryKey

theorem completed_of_resolved {name source : String} {declared : Metadata}
    (h : resolve name source declared = .ok m) : m.Completed := by
  have hm := coherent_of_resolved h
  rw [resolve, check_bind_eq_ok_iff] at h
  obtain ⟨columns, hcolumns, h⟩ := bind_eq_ok_iff.1 h.2
  obtain ⟨added, hadded, h⟩ := bind_eq_ok_iff.1 h
  have hresolved := ok_eq_ok_iff.1 h
  have hall : m.columns = columns ++ added := by rw [hresolved]
  have hprimary : m.primaryKey = primaryKeyOf columns := by rw [hresolved]
  have hoptions : m.declared.options = declared.options := by rw [hresolved]
  -- what is to be added is declared already, or is added
  have hcolumn : ∀ d ∈ additions (primaryKeyOf columns) declared.options, m.hasColumn d.name = true := by
    intro d hd
    rw [hasColumn, hasColumnIn_iff, hall, List.map_append, List.mem_append]
    by_cases hin : hasColumnIn columns d.name = true
    · exact Or.inl (hasColumnIn_iff.1 hin)
    · obtain ⟨column, hmem, hof⟩ := exists_of_mapM_eq_ok hadded (List.mem_filter.2 ⟨hd, by simpa using hin⟩)
      exact Or.inr (List.mem_map.2 ⟨column, hmem, name_of_ofDeclaration hof⟩)
  refine ⟨hm, fun htimes => ?_, fun c hc himplicit hnull => ?_, fun c hc hname hkind => ?_⟩
  · have htimes' : declared.options.timestamps = true := hoptions ▸ htimes
    exact ⟨hcolumn (.added createdAt "timestamp" true) (by simp [additions, htimes']),
      hcolumn (.added updatedAt "timestamp" true) (by simp [additions, htimes'])⟩
  · rw [hall, List.mem_append] at hc
    rcases hc with hc | hc
    · obtain ⟨d, -, hof⟩ := exists_of_mem_mapM hcolumns hc
      cases (fields_of_ofDeclaration hof).2.symm.trans himplicit
    · obtain ⟨d, hd, hof⟩ := exists_of_mem_mapM hadded hc
      have hforbidden : d.nullable = false := (fields_of_ofDeclaration hof).1.symm.trans hnull
      rw [name_of_ofDeclaration hof, hprimary]
      exact name_of_mem_additions (List.mem_filter.1 hd).1 hforbidden
  · cases hfind : columns.find? fun c => c.kind = .id with
    | none => rw [hprimary, primaryKeyOf, hfind]
    | some d =>
      -- the column of the kind for keys is the primary key, and no other column has its name
      have hd : d ∈ m.columns := hall ▸ List.mem_append_left _ (List.mem_of_find?_eq_some hfind)
      have hsame : c.name = d.name := by rw [hname, hprimary, primaryKeyOf, hfind]
      have hid : d.kind = .id := by simpa using List.find?_some hfind
      exact absurd (List.inj_on_of_nodup_map hm.names hc hd hsame ▸ hid) hkind

end Model

end DataModel

import DataModel.Proofs.Coherence
import DataModel.Proofs.Sample

/-!
# Well-formed metadata

Of which documents a model can be made, and what the model is like. A document has to name its table and its
columns, each column with a name of its own, and the types and patterns that it writes have to be known. The model
then has the declared columns in their order, and behind them those that the document asks for without declaring
them.
-/

namespace DataModel

namespace Kind

/-- The types that a column can be declared with, in lower case. -/
def typeNames : List String :=
  ["id", "string", "varchar", "char", "text", "mediumtext", "longtext", "tinyinteger", "smallinteger", "integer", "int",
   "biginteger", "bigint", "float", "double", "decimal", "boolean", "bool", "json", "jsonb", "date", "datetime",
   "timestamp", "time", "uuid", "enum", "password"]

theorem isSome_ofType?_iff {type : String} (length precision scale : Option Nat) :
    (ofType? type length precision scale).isSome = true ↔ Segment.lower type ∈ typeNames := by
  unfold ofType?
  split <;> simp_all [typeNames]

theorem ofType?_eq_id_iff {type : String} {length precision scale : Option Nat} :
    ofType? type length precision scale = some .id ↔ Segment.lower type = "id" := by
  unfold ofType?
  split <;> simp_all

end Kind

/-- What a document has to be for a model to be made of it. -/
structure Metadata.WellFormed (d : Metadata) : Prop where
  named : Blank.isAllBlank d.table.name = false
  columnsNamed : ∀ c ∈ d.columns, Blank.isAllBlank c.name = false
  distinct : (d.columns.map ColumnDeclaration.name).Nodup
  typed : ∀ c ∈ d.columns, Segment.lower c.type ∈ Kind.typeNames
  patterns : ∀ c ∈ d.columns, ∀ pattern, c.rule.bind Rule.pattern = some pattern →
    (Pattern.parse? pattern).isSome = true

namespace Metadata

/-- The names of the declared columns. -/
def declaredNames (d : Metadata) : List String :=
  d.columns.map ColumnDeclaration.name

/-- The first column that is declared with the type for keys, or else the default one. -/
def primaryKey (d : Metadata) : String :=
  match d.columns.find? fun c => Segment.lower c.type = "id" with
  | some c => c.name
  | none => defaultPrimaryKey

/-- The columns that are asked for without being declared. -/
def impliedNames (d : Metadata) : List String :=
  ([d.primaryKey] ++ (if d.options.timestamps then [createdAt, updatedAt] else []) ++
    if d.options.softDeletes then [deletedAt] else []).filter fun name => name ∉ d.declaredNames

end Metadata

namespace Model

variable {name source : String} {d : Metadata} {m : Model}

theorem checkColumns_eq_ok_iff {table : String} {seen : List String} {columns : List ColumnDeclaration} :
    checkColumns table seen columns = .ok () ↔
      (∀ c ∈ columns, Blank.isAllBlank c.name = false) ∧ (columns.map ColumnDeclaration.name).Nodup ∧
        ∀ c ∈ columns, c.name ∉ seen := by
  induction columns generalizing seen with
  | nil => simp [checkColumns]
  | cons c columns ih =>
    unfold checkColumns
    by_cases hblank : Blank.isAllBlank c.name = true
    · simp [hblank]
    by_cases hseen : c.name ∈ seen
    · simp [hblank, hseen]
    · have hsplit : (∀ d ∈ columns, d.name ∉ c.name :: seen) ↔
          c.name ∉ columns.map ColumnDeclaration.name ∧ ∀ d ∈ columns, d.name ∉ seen := by
        simp only [List.mem_cons, not_or, List.mem_map, not_exists, not_and, ← forall_and]
      simp only [hblank, hseen, List.contains_iff_mem, Bool.false_eq_true, if_false, ih, hsplit, List.map_cons,
        List.nodup_cons, List.forall_mem_cons, not_false_iff, true_and]
      tauto

theorem check_eq_ok_iff : check d = .ok () ↔
    Blank.isAllBlank d.table.name = false ∧ (∀ c ∈ d.columns, Blank.isAllBlank c.name = false) ∧
      d.declaredNames.Nodup := by
  unfold check
  by_cases hblank : Blank.isAllBlank d.table.name = true
  · simp [hblank]
  · simp [hblank, checkColumns_eq_ok_iff, Metadata.declaredNames]

theorem exists_ofDeclaration_iff {c : ColumnDeclaration} {implicit : Bool} :
    (∃ column, Column.ofDeclaration c implicit = .ok column) ↔
      Segment.lower c.type ∈ Kind.typeNames ∧
        ∀ pattern, c.rule.bind Rule.pattern = some pattern → (Pattern.parse? pattern).isSome = true := by
  rw [← Kind.isSome_ofType?_iff c.length c.precision c.scale]
  unfold Column.ofDeclaration Column.patternOf?
  cases hkind : Kind.ofType? c.type c.length c.precision c.scale with
  | none => simp
  | some kind =>
    cases hpattern : c.rule.bind Rule.pattern with
    | none => simp
    | some pattern => cases hparse : Pattern.parse? pattern <;> simp [hparse]

theorem exists_mapM_eq_ok_iff {α β ε : Type} {f : α → Except ε β} {items : List α} :
    (∃ values, items.mapM f = .ok values) ↔ ∀ a ∈ items, ∃ b, f a = .ok b := by
  constructor
  · rintro ⟨values, hvalues⟩ a ha
    obtain ⟨b, -, hb⟩ := exists_of_mapM_eq_ok hvalues ha
    exact ⟨b, hb⟩
  · intro hall
    induction items with
    | nil => exact ⟨[], rfl⟩
    | cons a items ih =>
      rw [List.forall_mem_cons] at hall
      obtain ⟨⟨b, hb⟩, hrest⟩ := hall
      obtain ⟨values, hvalues⟩ := ih hrest
      refine ⟨b :: values, ?_⟩
      rw [List.mapM_cons, hb, hvalues]
      rfl

/-- Nothing that is added to the declared columns can be refused. -/
theorem exists_added (key : String) (options : ModelOptions) :
    ∀ c ∈ additions key options, ∃ column, Column.ofDeclaration c true = .ok column := by
  intro c hc
  rw [exists_ofDeclaration_iff]
  have htype : (c.type = "ID" ∨ c.type = "timestamp") ∧ c.rule = none := by
    simp only [additions, List.mem_append, List.mem_singleton, List.mem_ite_nil_right, List.mem_pair] at hc
    rcases hc with (rfl | ⟨-, rfl | rfl⟩) | ⟨-, rfl⟩ <;> simp [ColumnDeclaration.added]
  obtain ⟨htype, hrule⟩ := htype
  refine ⟨?_, by simp [hrule]⟩
  rcases htype with h | h <;> rw [h] <;> decide

/-- A model is made of a document exactly when it is well formed. -/
theorem exists_resolve_iff : (∃ m, resolve name source d = .ok m) ↔ d.WellFormed := by
  constructor
  · rintro ⟨m, hm⟩
    rw [resolve, check_bind_eq_ok_iff, check_eq_ok_iff] at hm
    obtain ⟨⟨htable, hcolumns, hdistinct⟩, hm⟩ := hm
    obtain ⟨own, hown, -⟩ := bind_eq_ok_iff.1 hm
    have hread := exists_mapM_eq_ok_iff.1 ⟨own, hown⟩
    exact ⟨htable, hcolumns, hdistinct, fun c hc => (exists_ofDeclaration_iff.1 (hread c hc)).1,
      fun c hc => (exists_ofDeclaration_iff.1 (hread c hc)).2⟩
  · intro h
    obtain ⟨own, hown⟩ := exists_mapM_eq_ok_iff.2 fun c hc =>
      exists_ofDeclaration_iff.2 ⟨h.typed c hc, h.patterns c hc⟩
    obtain ⟨added, hadded⟩ := exists_mapM_eq_ok_iff.2 fun c
        (hc : c ∈ (additions (primaryKeyOf own) d.options).filter fun c => !hasColumnIn own c.name) =>
      exists_added (primaryKeyOf own) d.options c (List.mem_filter.1 hc).1
    refine ⟨⟨name, source, d, own ++ added, primaryKeyOf own⟩, ?_⟩
    rw [resolve, check_bind_eq_ok_iff]
    refine ⟨check_eq_ok_iff.2 ⟨h.named, h.columnsNamed, h.distinct⟩, ?_⟩
    exact bind_eq_ok_iff.2 ⟨own, hown, bind_eq_ok_iff.2 ⟨added, hadded, rfl⟩⟩

theorem kind_of_ofDeclaration {c : ColumnDeclaration} {implicit : Bool} {column : Column}
    (h : Column.ofDeclaration c implicit = .ok column) :
    Kind.ofType? c.type c.length c.precision c.scale = some column.kind := by
  unfold Column.ofDeclaration at h
  split at h
  · cases h
  next kind hkind =>
    split at h
    · cases h
    · rw [hkind, ok_eq_ok_iff.1 h]

/-- The primary key is found among the declarations by the type that they write. -/
theorem primaryKeyOf_eq {own : List Column}
    (h : d.columns.mapM (fun c => Column.ofDeclaration c false) = .ok own) : primaryKeyOf own = d.primaryKey := by
  unfold primaryKeyOf Metadata.primaryKey
  generalize d.columns = declarations at h
  induction declarations generalizing own with
  | nil => rw [ok_eq_ok_iff.1 h]; rfl
  | cons c declarations ih =>
    rw [List.mapM_cons] at h
    obtain ⟨column, hcolumn, h⟩ := bind_eq_ok_iff.1 h
    obtain ⟨rest, hrest, h⟩ := bind_eq_ok_iff.1 h
    have hkind := kind_of_ofDeclaration hcolumn
    rw [ok_eq_ok_iff.1 h, List.find?_cons, List.find?_cons]
    by_cases hid : Segment.lower c.type = "id"
    · have hcolumnKind : column.kind = .id := Option.some.inj (hkind.symm.trans (Kind.ofType?_eq_id_iff.2 hid))
      simp [hid, hcolumnKind, name_of_ofDeclaration hcolumn]
    · have hcolumnKind : column.kind ≠ .id := fun hk => hid (Kind.ofType?_eq_id_iff.1 (hk ▸ hkind))
      simpa [hid, hcolumnKind] using ih hrest

/-- A model is what a document declares. Under each of the names of its columns, and under no other, there is one
column. -/
structure MadeOf (m : Model) (d : Metadata) : Prop where
  declared : m.declared = d
  names : m.columnNames = d.declaredNames ++ d.impliedNames
  distinct : m.columnNames.Nodup
  keys : ∀ name, (m.column? name).isSome = true ↔ name ∈ m.columnNames
  entries : ∀ name c, m.column? name = some c → c.name = name
  own : ∀ c ∈ d.columns, ∃ column, Column.ofDeclaration c false = .ok column ∧ m.column? c.name = some column
  implicit : ∀ c ∈ m.columns, c.implicit = true ↔ c.name ∈ d.impliedNames
  primaryKey : m.primaryKey = d.primaryKey
  primary : m.primaryKey ∈ m.columnNames
  table : m.schema.name = d.table.name ∧ m.schema.primaryKey = some m.primaryKey ∧
    m.schema.columns = m.columnNames ∧ m.schema.kinds.keys = m.columnNames
  kinds : ∀ name, m.schema.kind? name = (m.column? name).map Column.kind
  counted : m.schema.autoIncrement = true ↔ ∃ c, m.column? m.primaryKey = some c ∧ c.kind = .id
  marked : d.options.softDeletes = true → deletedAt ∈ m.columnNames
  timed : d.options.timestamps = true → createdAt ∈ m.columnNames ∧ updatedAt ∈ m.columnNames

theorem isSome_column?_iff {c : String} : (m.column? c).isSome = true ↔ c ∈ m.columnNames := by
  simp [column?, columnNames, List.find?_isSome]

theorem keys_schema (m : Model) : m.schema.kinds.keys = m.columnNames := by
  simp [schema, Assoc.keys, columnNames]

theorem kind?_schema (m : Model) (c : String) : m.schema.kind? c = (m.column? c).map Column.kind := by
  simp only [schema, TableSchema.kind?, column?]
  induction m.columns with
  | nil => rfl
  | cons column columns ih =>
    rw [List.map_cons, Assoc.get?_cons, List.find?_cons]
    by_cases h : column.name = c <;> simp [h, ih]

/-- A name that a document asks for is declared or implied. -/
theorem mem_names_of_asked {c : String} (h : c ∈ [d.primaryKey] ++
    (if d.options.timestamps then [createdAt, updatedAt] else []) ++
      if d.options.softDeletes then [deletedAt] else []) : c ∈ d.declaredNames ++ d.impliedNames := by
  by_cases hc : c ∈ d.declaredNames
  · exact List.mem_append_left _ hc
  · exact List.mem_append_right _ (List.mem_filter.2 ⟨h, by simpa using hc⟩)

/-- The columns of a model are those that its document declares and those that are added to them. -/
theorem exists_columns_of_resolved (h : resolve name source d = .ok m) :
    ∃ own added, d.columns.mapM (fun c => Column.ofDeclaration c false) = .ok own ∧
      ((additions d.primaryKey d.options).filter fun c => !hasColumnIn own c.name).mapM
        (fun c => Column.ofDeclaration c true) = .ok added ∧
      m = ⟨name, source, d, own ++ added, d.primaryKey⟩ := by
  rw [resolve, check_bind_eq_ok_iff] at h
  obtain ⟨own, hown, h⟩ := bind_eq_ok_iff.1 h.2
  obtain ⟨added, hadded, h⟩ := bind_eq_ok_iff.1 h
  rw [primaryKeyOf_eq hown] at hadded h
  exact ⟨own, added, hown, hadded, ok_eq_ok_iff.1 h⟩

/-- What is added has the names that are asked for, without those that are declared. -/
theorem names_of_added {own added : List Column}
    (hown : d.columns.mapM (fun c => Column.ofDeclaration c false) = .ok own)
    (hadded : ((additions d.primaryKey d.options).filter fun c => !hasColumnIn own c.name).mapM
      (fun c => Column.ofDeclaration c true) = .ok added) : added.map Column.name = d.impliedNames := by
  have hownNames : own.map Column.name = d.declaredNames := names_of_mapM hown
  have hasked : (additions d.primaryKey d.options).map ColumnDeclaration.name =
      [d.primaryKey] ++ (if d.options.timestamps then [createdAt, updatedAt] else []) ++
        if d.options.softDeletes then [deletedAt] else [] := by
    unfold additions
    cases d.options.timestamps <;> cases d.options.softDeletes <;> rfl
  rw [names_of_mapM hadded, Metadata.impliedNames, ← hasked, List.filter_map]
  congr 1
  refine List.filter_congr fun c _ => ?_
  rw [Bool.eq_iff_iff, Function.comp_apply, decide_eq_true_iff, ← hownNames, ← hasColumnIn_iff]
  simp

theorem names_of_resolved (h : resolve name source d = .ok m) : m.columnNames = d.declaredNames ++ d.impliedNames := by
  obtain ⟨own, added, hown, hadded, rfl⟩ := exists_columns_of_resolved h
  have hownNames : own.map Column.name = d.declaredNames := names_of_mapM hown
  rw [columnNames, List.map_append, hownNames, names_of_added hown hadded]

theorem column?_of_resolved (h : resolve name source d = .ok m) {c : ColumnDeclaration} (hc : c ∈ d.columns) :
    ∃ column, Column.ofDeclaration c false = .ok column ∧ m.column? c.name = some column := by
  have hm := coherent_of_resolved h
  obtain ⟨own, added, hown, -, rfl⟩ := exists_columns_of_resolved h
  obtain ⟨column, hmem, hof⟩ := exists_of_mapM_eq_ok hown hc
  exact ⟨column, hof, name_of_ofDeclaration hof ▸ hm.column?_eq (List.mem_append_left _ hmem)⟩

/-- The columns that are implied are marked as such. -/
theorem implicit_iff_of_resolved (h : resolve name source d = .ok m) {c : Column} (hc : c ∈ m.columns) :
    c.implicit = true ↔ c.name ∈ d.impliedNames := by
  have hnames := names_of_resolved h
  have hdisjoint : List.Disjoint d.declaredNames d.impliedNames :=
    List.disjoint_of_nodup_append (hnames ▸ (coherent_of_resolved h).names)
  obtain ⟨own, added, hown, hadded, rfl⟩ := exists_columns_of_resolved h
  rcases List.mem_append.1 hc with hc | hc
  · obtain ⟨declaration, -, hof⟩ := exists_of_mem_mapM hown hc
    have hownNames : own.map Column.name = d.declaredNames := names_of_mapM hown
    have hin : c.name ∈ d.declaredNames := hownNames ▸ List.mem_map_of_mem hc
    rw [(fields_of_ofDeclaration hof).2]
    exact iff_of_false Bool.false_ne_true fun himplied => hdisjoint hin himplied
  · obtain ⟨declaration, -, hof⟩ := exists_of_mem_mapM hadded hc
    have hin : c.name ∈ d.impliedNames := names_of_added hown hadded ▸ List.mem_map_of_mem hc
    rw [(fields_of_ofDeclaration hof).2]
    exact iff_of_true rfl hin

theorem madeOf_of_resolved (h : resolve name source d = .ok m) : m.MadeOf d := by
  have hm := coherent_of_resolved h
  have hnames := names_of_resolved h
  have hown := fun c (hc : c ∈ d.columns) => column?_of_resolved h hc
  have himplicit := fun c (hc : c ∈ m.columns) => implicit_iff_of_resolved h hc
  have hasked := fun c hc => hnames ▸ mem_names_of_asked (d := d) (c := c) hc
  obtain ⟨own, added, -, -, rfl⟩ := exists_columns_of_resolved h
  exact
    { declared := rfl
      names := hnames
      distinct := hm.names
      keys := fun c => isSome_column?_iff
      entries := fun c column hc => name_of_column? hc
      own := hown
      implicit := himplicit
      primaryKey := rfl
      primary := hm.primary
      table := ⟨rfl, rfl, rfl, keys_schema _⟩
      kinds := kind?_schema _
      counted := by simp [schema, Option.any_eq_true]
      marked := fun hoption => hasked deletedAt (by simp [hoption])
      timed := fun hoption => ⟨hasked createdAt (by simp [hoption]), hasked updatedAt (by simp [hoption])⟩ }

/-- A model is made of a document exactly when the document is well formed, and it is what the document declares. -/
theorem resolved_made_of_well_formed (name source : String) (d : Metadata) :
    ((∃ m, resolve name source d = .ok m) ↔ d.WellFormed) ∧
      ∀ m, resolve name source d = .ok m → m.MadeOf d :=
  ⟨exists_resolve_iff, fun _ => madeOf_of_resolved⟩

theorem person_made_of_well_formed : Sample.declaredPerson.WellFormed ∧ Sample.person.MadeOf Sample.declaredPerson := by
  obtain ⟨hiff, hmade⟩ := resolved_made_of_well_formed "person" "" Sample.declaredPerson
  exact ⟨hiff.1 ⟨Sample.person, Sample.resolve_person⟩, hmade Sample.person Sample.resolve_person⟩

example : Metadata.impliedNames ⟨"m", ⟨"t", none⟩,
    [.added "code" "string" true, .added "uid" "Id" false, .added "created_at" "text" true], [], ⟨true, true⟩⟩ =
      ["updated_at", "deleted_at"] := by
  decide

end Model

end DataModel

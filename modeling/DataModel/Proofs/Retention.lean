import DataModel.Proofs.Convergence

/-!
# Migrations lose nothing

A migration without force touches the table of its model only, and what is stored there stays: the rows in their
order, every cell of the columns that were there, declared or not, and the counter. A column that is added has its
default in every row. The report says what was done: what was added are the declared columns that were missing, and
what was changed are those that had drifted, in the order of their declaration.
-/

namespace DataModel

/-- Whether a living column of the name of a declared one is not as it is declared. -/
def Table.hasDrifted (t : Table) (c : Column) : Bool :=
  t.columns.any fun l => l.name = c.name && l ≠ .ofDefinition (c.definition false)

theorem Table.hasDrifted_iff {t : Table} {c : Column} :
    t.hasDrifted c = true ↔ ∃ l ∈ t.columns, l.name = c.name ∧ l ≠ .ofDefinition (c.definition false) := by
  simp [hasDrifted]

namespace Model

variable {m : Model} {t : Table}

/-- Whether a row has the cells of all columns that were there before a migration, and the defaults of those that it
has added. -/
structure KeptRow (m : Model) (t : Table) (row row' : Record) : Prop where
  old : ∀ name, t.hasColumn name = true → row'.get? name = row.get? name
  new : ∀ c ∈ m.columns, t.hasColumn c.name = false → row'.get? c.name = some (c.default.getD .null)

/-- What a migration leaves of the table that was there, and what it reports. The primary key is never changed. -/
structure Kept (m : Model) (t t' : Table) (report : MigrationReport) : Prop where
  rows : List.Forall₂ (m.KeptRow t) t.rows t'.rows
  nextId : t'.nextId = t.nextId
  undeclared : ∀ l ∈ t.columns, m.hasColumn l.name = false → l ∈ t'.columns ∧ l.name ∈ report.retained
  added : report.added = (m.columns.filter fun c => !t.hasColumn c.name).map Column.name
  changed : report.changed = (m.columns.filter fun c => c.name ≠ m.primaryKey && t.hasDrifted c).map Column.name

theorem names_filter_definitions {p : ColumnDefinition → Bool} {q : Column → Bool}
    (h : ∀ c ∈ m.columns, p (m.definition c) = q c) :
    (m.definitions.filter p).map ColumnDefinition.name = (m.columns.filter q).map Column.name := by
  have hpicked : m.columns.filter (p ∘ m.definition) = m.columns.filter q := List.filter_congr h
  rw [definitions, List.filter_map, List.map_map, hpicked]
  exact List.map_congr_left fun c _ => m.name_definition c

theorem names_add (m : Model) (t : Table) :
    (diff Kind.name m t.columns).add.map ColumnDefinition.name =
      (m.columns.filter fun c => !t.hasColumn c.name).map Column.name := by
  refine names_filter_definitions fun c _ => ?_
  rw [Bool.eq_iff_iff, Option.isNone_iff_eq_none, liveColumn?_eq_none_iff, name_definition, Bool.not_eq_true',
    Bool.eq_false_iff, ne_eq, Table.hasColumn_iff]

/-- What is changed are the declared columns that have drifted, except for the primary key. -/
theorem names_change (hnames : t.columnNames.Nodup) (hmade : t.Described) :
    (diff Kind.name m t.columns).change.map ColumnDefinition.name =
      (m.columns.filter fun c => c.name ≠ m.primaryKey && t.hasDrifted c).map Column.name := by
  refine names_filter_definitions fun c hc => ?_
  have hmem : m.definition c ∈ (diff Kind.name m t.columns).change ↔ _ :=
    List.mem_filter.trans (and_iff_right (List.mem_map_of_mem hc))
  rw [Bool.eq_iff_iff, ← hmem, mem_change hnames, Bool.and_eq_true, decide_eq_true_eq, Table.hasDrifted_iff]
  by_cases hkey : c.name = m.primaryKey
  · constructor
    · rintro ⟨-, l, -, -, hprimary, -⟩
      cases (primary_definition.2 hkey).symm.trans hprimary
    · exact fun h => absurd hkey h.1
  · have hdefinition : m.definition c = c.definition false := if_neg hkey
    rw [hdefinition]
    constructor
    · rintro ⟨-, l, hl, hname, -, hdiffers⟩
      refine ⟨hkey, l, hl, hname, ?_⟩
      rintro rfl
      cases hdiffers.symm.trans (isAsDefined_declared Kind.name (c.definition false))
    · rintro ⟨-, l, hl, hname, hdrifted⟩
      obtain ⟨d, rfl⟩ := hmade l hl
      refine ⟨hdefinition ▸ List.mem_map_of_mem hc, _, hl, hname, rfl, ?_⟩
      rw [Bool.eq_false_iff, ne_eq, LiveColumn.isAsDefined_ofDefinition_iff hname]
      exact hdrifted

namespace Coherent

variable (hm : m.Coherent)
include hm

theorem keptRow_extend (t : Table) (row : Record) :
    m.KeptRow t row
      (row.extend ((diff Kind.name m t.columns).add.map fun c => (c.name, c.default.getD .null))) := by
  have hkeys : ((diff Kind.name m t.columns).add.map fun c => (c.name, c.default.getD .null)).map Prod.fst =
      (diff Kind.name m t.columns).add.map ColumnDefinition.name := by
    rw [List.map_map]
    rfl
  refine ⟨fun name hname => Assoc.get?_extend_of_not_mem fun hin => ?_, fun c hc hmissing => ?_⟩
  · rw [hkeys] at hin
    obtain ⟨c, hc, rfl⟩ := List.mem_map.1 hin
    exact (mem_add.1 hc).2 (Table.hasColumn_iff.1 hname)
  · have hadded : m.definition c ∈ (diff Kind.name m t.columns).add := by
      refine mem_add.2 ⟨List.mem_map_of_mem hc, fun hin => ?_⟩
      rw [name_definition, ← Table.hasColumn_iff, hmissing] at hin
      exact Bool.false_ne_true hin
    refine Assoc.get?_extend_of_mem (hkeys ▸ hm.nodup_add Kind.name t.columns) ?_
    exact List.mem_map.2 ⟨m.definition c, hadded, by rw [name_definition, default_definition]⟩

/-- The diff of a model loses nothing of a table, and is reported as it is. -/
theorem kept_amended (hnames : t.columnNames.Nodup) (hmade : t.Described) :
    m.Kept t (t.amended (diff Kind.name m t.columns)) (m.altered t.columns) where
  rows := List.forall₂_map_right_iff.2 (List.forall₂_same.2 fun row _ => hm.keptRow_extend t row)
  nextId := rfl
  undeclared l hl hnot := by
    have hself : (diff Kind.name m t.columns).renewed Kind.name l = l := by
      refine TableDiff.renewed_eq_self fun c hc hname => ?_
      rw [← hname, hasColumn_of_definition ((mem_change hnames).1 hc).1] at hnot
      cases hnot
    refine ⟨List.mem_append_left _ (List.mem_map.2 ⟨l, hl, hself⟩), List.mem_filter.2 ⟨List.mem_map_of_mem hl, ?_⟩⟩
    rw [hnot, Bool.not_false]
  added := m.names_add t
  changed := names_change hnames hmade

end Coherent

/-- A migration without force loses nothing. When it succeeds, every other table is as it was. If the table of the
model was there, then the rows are those that were there, in their order, with the cells that they had and the default
of each column that was added; the counter is as it was; the columns that are no longer declared are described as
before and reported; and what is reported as added and changed are the declared columns that were missing and that
had drifted. -/
theorem migration_loses_nothing {name source : String} {declared : Metadata}
    (hresolve : resolve name source declared = .ok m) {ops : List Store.Operation}
    (hcreate : ∀ d, .create d ∈ ops → (d.columns.map ColumnDefinition.name).Nodup) {report : MigrationReport}
    {s' : Store} (h : m.migrate (Store.empty.run ops) false = .ok (report, s')) :
    (∀ other, other ≠ m.tableName → s'.tables.get? other = (Store.empty.run ops).tables.get? other) ∧
      ∀ t, (Store.empty.run ops).tables.get? m.tableName = some t →
        ∃ t', s'.tables.get? m.tableName = some t' ∧ m.Kept t t' report := by
  have hm := coherent_of_resolved hresolve
  obtain ⟨hnone, -, rfl⟩ | ⟨t, t', ht, halter, rfl, rfl⟩ := migrate_cases h
  · refine ⟨fun other hother => Assoc.get?_insert_of_ne (Ne.symm hother), fun t ht => ?_⟩
    cases hnone.symm.trans ht
  · refine ⟨fun other hother => Assoc.get?_insert_of_ne (Ne.symm hother), fun t₀ ht₀ => ?_⟩
    obtain rfl := Option.some.inj (ht.symm.trans ht₀)
    have hmem := Assoc.mem_of_get? ht
    have hnames := Store.nodup_columnNames_run hcreate _ hmem
    refine ⟨t', Assoc.get?_insert_self _ _ _, ?_⟩
    rw [hm.eq_of_alter_diff hnames halter]
    exact hm.kept_amended hnames (Store.described_run ops _ hmem)

end Model

namespace Sample

/-- The former people keep their rows, their ages and their numbers, and get a mark for deletion. -/
theorem former_people_kept :
    ∃ report s' t t', person.migrate (Store.empty.run addingFormerPeople) false = .ok (report, s') ∧
      (Store.empty.run addingFormerPeople).tables.get? person.tableName = some t ∧
      s'.tables.get? person.tableName = some t' ∧ person.Kept t t' report ∧
      t'.rows.map (fun row => row.cell "age") = [.int 36, .null] ∧ t'.nextId = 3 := by
  have hcreate : ∀ d, .create d ∈ addingFormerPeople → (d.columns.map ColumnDefinition.name).Nodup := by
    intro d hd
    have hformer : d = formerPeople := by simpa [addingFormerPeople] using hd
    rw [hformer]
    decide
  obtain ⟨t', ht', hkept⟩ := (Model.migration_loses_nothing resolve_person hcreate rfl).2 _ rfl
  obtain rfl : _ = t' := Option.some.inj ht'
  exact ⟨_, _, _, _, rfl, rfl, rfl, hkept, rfl, rfl⟩

end Sample

end DataModel

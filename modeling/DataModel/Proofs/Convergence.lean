import DataModel.Proofs.Layout
import DataModel.Proofs.Sample

/-!
# Migrations converge

A migration without force makes the table of a model, or alters the one that is there by the diff of the two. The
columns of stored tables are such as definitions make them, so a column that has not to be changed has exactly the
type and the sizes that are declared. After a migration nothing is left to be done: the next one leaves the store as
it is.
-/

namespace DataModel

namespace Kind

theorem lower_name (k : Kind) : Segment.lower k.name = k.name := by
  cases k <;> simp only [name] <;> decide

theorem isSome_maxLength (k : Kind) : k.maxLength.isSome = decide (k.name = "string" ∨ k.name = "char") := by
  cases k <;> rfl

theorem isSome_shape (k : Kind) : k.shape.isSome = decide (k.name = "decimal") := by
  cases k <;> rfl

theorem shape_of_maxLength {k : Kind} {n : Nat} (h : k.maxLength = some n) : k.shape = none := by
  cases k <;> first | rfl | cases h

end Kind

namespace LiveColumn

variable {c d : ColumnDefinition}

theorem agrees_some {n declared : Nat} : agrees (some n) declared = true ↔ n = declared :=
  decide_eq_true_iff

/-- Where the names of two kinds are the same, both have a length, or digits, or neither. -/
theorem sizes_eq_of_sameShape (hkind : d.kind.name = c.kind.name) (h : (ofDefinition d).sameShape c.kind = true) :
    d.kind.maxLength = c.kind.maxLength ∧ d.kind.shape = c.kind.shape := by
  have hlength : d.kind.maxLength.isSome = c.kind.maxLength.isSome := by
    rw [Kind.isSome_maxLength, Kind.isSome_maxLength, hkind]
  have hdigits : d.kind.shape.isSome = c.kind.shape.isSome := by
    rw [Kind.isSome_shape, Kind.isSome_shape, hkind]
  unfold sameShape at h
  cases hc : c.kind.maxLength with
  | some declared =>
    rw [hc, Option.isSome_some] at hlength
    obtain ⟨length, hd⟩ := Option.isSome_iff_exists.1 hlength
    rw [hc, ofDefinition, hd] at h
    rw [hd, agrees_some.1 h, Kind.shape_of_maxLength hc, Kind.shape_of_maxLength hd]
    exact ⟨rfl, rfl⟩
  | none =>
    rw [hc, Option.isSome_none, Option.isSome_eq_false_iff, Option.isNone_iff_eq_none] at hlength
    refine ⟨hlength, ?_⟩
    cases hs : c.kind.shape with
    | some digits =>
      rw [hs, Option.isSome_some] at hdigits
      obtain ⟨living, hd⟩ := Option.isSome_iff_exists.1 hdigits
      rw [hc, hs, ofDefinition, hd, Bool.and_eq_true] at h
      rw [hd, Prod.ext (agrees_some.1 h.1) (agrees_some.1 h.2)]
    | none =>
      rw [hs, Option.isSome_none, Option.isSome_eq_false_iff, Option.isNone_iff_eq_none] at hdigits
      exact hdigits

/-- A column that a definition makes is as defined when it is just what the definition makes. -/
theorem isAsDefined_ofDefinition_iff (hname : d.name = c.name) :
    Model.isAsDefined Kind.name (ofDefinition d) c = true ↔ ofDefinition d = ofDefinition c := by
  refine ⟨fun h => ?_, fun h => h ▸ Model.isAsDefined_declared Kind.name c⟩
  rw [Model.isAsDefined, Bool.and_eq_true, Bool.and_eq_true, decide_eq_true_eq, beq_iff_eq] at h
  obtain ⟨⟨htype, hshape⟩, hnullable⟩ := h
  have hkind : d.kind.name = c.kind.name := by
    change Segment.lower c.kind.name = Segment.lower d.kind.name at htype
    rw [Kind.lower_name, Kind.lower_name] at htype
    exact htype.symm
  obtain ⟨hlength, hdigits⟩ := sizes_eq_of_sameShape hkind hshape
  change d.nullable = c.nullable at hnullable
  rw [ofDefinition, ofDefinition, hname, hkind, hnullable, hlength, hdigits]

end LiveColumn

namespace Model

variable {m : Model} {s s' : Store} {report : MigrationReport}

/-- The report of a migration of a table that was there. -/
def altered (m : Model) (live : List LiveColumn) : MigrationReport :=
  { table := m.tableName
    created := false
    added := (diff Kind.name m live).add.map ColumnDefinition.name
    changed := (diff Kind.name m live).change.map ColumnDefinition.name
    retained := m.retained live }

theorem migrate_force (m : Model) (s : Store) : m.migrate s true = m.migrate (s.drop m.tableName) false :=
  rfl

theorem migrate_missing (h : s.hasTable m.tableName = false) :
    m.migrate s false =
      .ok (⟨m.tableName, true, [], [], []⟩, s.put m.tableName (.ofDefinition m.table)) := by
  have hcreate : s.create m.table = .ok (s.put m.tableName (.ofDefinition m.table)) :=
    if_neg (by rw [table, h]; exact Bool.false_ne_true)
  simp only [migrate, Bool.false_eq_true, if_false, h, hcreate]
  rfl

theorem migrate_present {t : Table} (ht : s.tables.get? m.tableName = some t) :
    m.migrate s false =
      match t.alter m.tableName (diff Kind.name m t.columns) with
      | .ok t' => .ok (m.altered t.columns, s.put m.tableName t')
      | .error e => .error (.migration m.tableName e) := by
  have hhas : s.hasTable m.tableName = true := by rw [Store.hasTable, Assoc.has, ht]; rfl
  have htable : s.table? m.tableName = .ok t := Library.table?_eq_ok_iff.2 ht
  have hsame : s.put m.tableName t = s := by rw [Store.put, Assoc.insert_eq_self ht]
  simp only [migrate, Bool.false_eq_true, if_false, hhas, if_true, migrateExisting, Store.describe, Store.alter, htable,
    bind, Except.bind, altered]
  generalize diff Kind.name m t.columns = d
  cases hempty : d.isEmpty with
  | true =>
    obtain rfl := TableDiff.isEmpty_iff.1 hempty
    have halter : t.alter m.tableName ⟨[], []⟩ = .ok t := rfl
    simp only [if_true, halter, hsame, List.map_nil]
  | false =>
    simp only [Bool.false_eq_true, if_false]
    cases t.alter m.tableName d <;> rfl

/-- What a migration without force does: it makes the table, or alters the one that is there. -/
theorem migrate_cases (h : m.migrate s false = .ok (report, s')) :
    (s.tables.get? m.tableName = none ∧ report = ⟨m.tableName, true, [], [], []⟩ ∧
        s' = s.put m.tableName (.ofDefinition m.table)) ∨
      ∃ t t', s.tables.get? m.tableName = some t ∧
        t.alter m.tableName (diff Kind.name m t.columns) = .ok t' ∧ report = m.altered t.columns ∧
        s' = s.put m.tableName t' := by
  cases ht : s.tables.get? m.tableName with
  | none =>
    have hmissing : s.hasTable m.tableName = false := by rw [Store.hasTable, Assoc.has, ht]; rfl
    rw [migrate_missing hmissing, ok_eq_ok_iff] at h
    obtain ⟨rfl, rfl⟩ := Prod.mk.inj h
    exact Or.inl ⟨rfl, rfl, rfl⟩
  | some t =>
    rw [migrate_present ht] at h
    split at h
    next t' halter =>
      obtain ⟨rfl, rfl⟩ := Prod.mk.inj (ok_eq_ok_iff.1 h)
      exact Or.inr ⟨t, t', rfl, halter, rfl, rfl⟩
    next => cases h

theorem migrate_settled {t : Table} (ht : s.tables.get? m.tableName = some t)
    (hdiff : diff Kind.name m t.columns = ⟨[], []⟩) :
    m.migrate s false = .ok (⟨m.tableName, false, [], [], m.retained t.columns⟩, s) := by
  have hsame : s.put m.tableName t = s := by rw [Store.put, Assoc.insert_eq_self ht]
  have halter : t.alter m.tableName ⟨[], []⟩ = .ok t := rfl
  rw [migrate_present ht, hdiff, halter, altered, hdiff]
  exact congrArg (fun s' => Except.ok (_, s')) hsame

/-- Whether living columns have different names and every declared column is among them, as it is declared unless it
is the primary key. -/
structure Reflected (m : Model) (live : List LiveColumn) : Prop where
  names : (live.map LiveColumn.name).Nodup
  declared : ∀ c ∈ m.columns, c.name ∈ live.map LiveColumn.name
  asDeclared : ∀ c ∈ m.columns, c.name ≠ m.primaryKey → LiveColumn.ofDefinition (c.definition false) ∈ live

namespace Coherent

variable (hm : m.Coherent)
include hm

/-- The diff leaves columns that are made by definitions as the model declares them. -/
theorem reflected_applied {live : List LiveColumn} (hlive : (live.map LiveColumn.name).Nodup)
    (hmade : ∀ l ∈ (diff Kind.name m live).applied Kind.name live, ∃ d, l = LiveColumn.ofDefinition d) :
    m.Reflected ((diff Kind.name m live).applied Kind.name live) := by
  have hexists (c : Column) (hc : c ∈ m.columns) := hm.exists_applied Kind.name hlive (List.mem_map_of_mem hc)
  refine ⟨hm.nodup_applied Kind.name hlive, fun c hc => ?_, fun c hc hprimary => ?_⟩
  · obtain ⟨l, hl, hname, -⟩ := hexists c hc
    exact List.mem_map.2 ⟨l, hl, hname.trans (m.name_definition c)⟩
  · obtain ⟨l, hl, hname, hdefined⟩ := hexists c hc
    obtain ⟨d, rfl⟩ := hmade l hl
    -- a definition has made the column, so to be as defined is to be equal to what is declared
    rw [definition, if_neg hprimary] at hname hdefined
    rw [← (LiveColumn.isAsDefined_ofDefinition_iff hname).1 (hdefined.resolve_left Bool.false_ne_true)]
    exact hl

/-- A migration leaves the table as the model declares it, nothing to be done, and the columns that are no longer
declared. -/
theorem exists_migrated (htables : ∀ e ∈ s.tables, e.2.Described)
    (hnames : ∀ t, s.tables.get? m.tableName = some t → t.columnNames.Nodup)
    (h : m.migrate s false = .ok (report, s')) :
    ∃ t, s'.tables.get? m.tableName = some t ∧ m.Reflected t.columns ∧ diff Kind.name m t.columns = ⟨[], []⟩ ∧
      m.retained t.columns = report.retained := by
  obtain ⟨-, rfl, rfl⟩ | ⟨t, t', ht, halter, rfl, rfl⟩ := migrate_cases h
  · -- a new table is as one without columns to which all are added
    have hmade : m.liveColumns = (diff Kind.name m []).applied Kind.name [] := m.applied_nil.symm
    refine ⟨_, Assoc.get?_insert_self _ _ _, ?_, hm.diff_made, ?_⟩
    · change m.Reflected m.liveColumns
      rw [hmade]
      refine hm.reflected_applied List.nodup_nil fun l hl => ?_
      rw [← hmade] at hl
      obtain ⟨d, -, rfl⟩ := List.mem_map.1 hl
      exact ⟨d, rfl⟩
    · change m.retained m.liveColumns = []
      rw [hmade, retained_applied]
      rfl
  · have hcolumns : t'.columns = (diff Kind.name m t.columns).applied Kind.name t.columns :=
      congrArg Table.columns (hm.eq_of_alter_diff (hnames t ht) halter)
    have hmade := (Table.Makes.alter halter).described (htables _ (Assoc.mem_of_get? ht))
    refine ⟨t', Assoc.get?_insert_self _ _ _, ?_, ?_, ?_⟩
    · rw [hcolumns]
      exact hm.reflected_applied (hnames t ht) (hcolumns ▸ hmade)
    · rw [hcolumns]
      exact hm.diff_applied Kind.name (hnames t ht)
    · rw [hcolumns]
      exact m.retained_applied Kind.name t.columns

end Coherent

/-- A migration without force converges in one step. When it succeeds over a table whose columns have different names,
or without one, the table is described with every declared column, each as it is declared except for the primary key;
and the next migration succeeds, reports that nothing was done and the same columns as no longer declared, and leaves
the store as it is. So does the diff under the types of any database: once columns are as it describes them it has
nothing to add or to change, and the same columns are no longer declared. -/
theorem migration_converges {name source : String} {declared : Metadata} {m : Model}
    (hresolve : resolve name source declared = .ok m) :
    (∀ (ops : List Store.Operation) (report : MigrationReport) (s' : Store),
      (∀ t, (Store.empty.run ops).tables.get? m.tableName = some t → t.columnNames.Nodup) →
        m.migrate (Store.empty.run ops) false = .ok (report, s') →
          (∃ live, s'.describe m.tableName = .ok live ∧ m.Reflected live) ∧
            ∃ again, m.migrate s' false = .ok (again, s') ∧ again.isNoop = true ∧ again.retained = report.retained) ∧
      ∀ (native : NativeTypes) (live : List LiveColumn), (live.map LiveColumn.name).Nodup →
        diff native m ((diff native m live).applied native live) = ⟨[], []⟩ ∧
          m.retained ((diff native m live).applied native live) = m.retained live := by
  have hm := coherent_of_resolved hresolve
  refine ⟨fun ops report s' hnames h => ?_, fun native live hlive =>
    ⟨hm.diff_applied native hlive, m.retained_applied native live⟩⟩
  obtain ⟨t, ht, hreflected, hdiff, hretained⟩ := hm.exists_migrated (Store.described_run ops) hnames h
  refine ⟨⟨t.columns, ?_, hreflected⟩, _, migrate_settled ht hdiff, rfl, hretained⟩
  exact bind_eq_ok_iff.2 ⟨t, Library.table?_eq_ok_iff.2 ht, rfl⟩

end Model

namespace Sample

/-- People as they were stored before: a name of at most twenty characters, which could be missing, and an age. -/
def formerPeople : TableDefinition :=
  { name := "people"
    comment := none
    columns :=
      [⟨"id", .id, false, none, true, false, false⟩, ⟨"name", .string 20, true, none, false, false, false⟩,
        ⟨"notes", .json, true, none, false, false, false⟩, ⟨"age", .integer, true, none, false, false, false⟩] }

/-- Two people are added. -/
def addingFormerPeople : List Store.Operation :=
  [.create formerPeople, .insert "people" [("name", .text "Ada"), ("notes", .list []), ("age", .int 36)],
    .insert "people" [("name", .text "Bo"), ("notes", .list [])]]

/-- The same columns as the database describes them. -/
def describedPeople : List LiveColumn :=
  formerPeople.columns.map (LiveColumn.declared Kind.dataType)

/-- The migration of the people changes two columns, adds one and leaves one that is no longer declared. Another one
has nothing to do, neither here nor in the database. -/
theorem people_migration_converges :
    (∃ report s', person.migrate (Store.empty.run addingFormerPeople) false = .ok (report, s') ∧
      report = ⟨"people", false, ["deleted_at"], ["name", "notes"], ["age"]⟩ ∧
      (∃ live, s'.describe person.tableName = .ok live ∧ person.Reflected live) ∧
      ∃ again, person.migrate s' false = .ok (again, s') ∧ again.isNoop = true ∧
        again.retained = report.retained) ∧
      Model.diff Kind.dataType person
        ((Model.diff Kind.dataType person describedPeople).applied Kind.dataType describedPeople) = ⟨[], []⟩ := by
  obtain ⟨hstore, hdiff⟩ := Model.migration_converges resolve_person
  refine ⟨⟨_, _, rfl, rfl, hstore addingFormerPeople _ _ (fun t ht => ?_) rfl⟩,
    (hdiff Kind.dataType describedPeople (by decide)).1⟩
  obtain rfl : _ = t := Option.some.inj ht
  decide

end Sample

end DataModel

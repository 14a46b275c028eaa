import DataModel.Proofs.Integrity
import DataModel.Proofs.Retention
import Mathlib.Data.List.Induction

/-!
# Defaults of stored columns

A table has a default for a column that came into it with one, and for nothing else. Columns that are there keep their
defaults, also when a migration changes them, since a living column does not show its default. So a row that is
inserted without a column has the default with which the column came into the table. It is the declared one when the
migration has made the table or added the column, and may be a former one when it has not.
-/

namespace DataModel

namespace Store

/-- Whether a table is there and has a column. -/
def hasColumn (s : Store) (name column : String) : Bool :=
  (s.tables.get? name).any fun t => t.hasColumn column

/-- The default that an operation declares for a column that it brings in. Of several columns of one name the last one
that has a default counts when a table is made, and the first one when a table is altered. -/
def Operation.default? (column : String) : Operation → Option Value
  | .create d => d.columns.reverse.findSome? fun c => if c.name = column then c.default else none
  | .alter _ d => (d.add.find? fun c => c.name = column).bind ColumnDefinition.default
  | .drop _ | .insert _ _ | .insertAll _ _ _ | .update _ _ _ | .delete _ _ => none

/-- Whether an operation brings a column into a table. -/
def brings (s : Store) (name column : String) (op : Operation) : Bool :=
  !s.hasColumn name column && (s.step op).hasColumn name column

/-- The default with which a column last came into a table by one of some operations, or else the one before. -/
def entryDefault (s : Store) (name column : String) (v : Option Value) : List Operation → Option Value
  | [] => v
  | op :: ops => (s.step op).entryDefault name column (if s.brings name column op then op.default? column else v) ops

end Store

namespace Table

variable {t t' : Table} {op : Store.Operation} {column : String} {v : Option Value}

/-- Whether a table has a given default for a column if it has the column, and none otherwise. -/
structure FillsWith (t : Table) (column : String) (v : Option Value) : Prop where
  present : t.hasColumn column = true → t.defaults.get? column = v
  missing : t.hasColumn column = false → t.defaults.get? column = none

/-- Whether a table numbers the rows that are given nothing in a column: it is the primary key, its keys are
generated, and it has no default. -/
def Numbers (t : Table) (column : String) : Prop :=
  t.primaryKey = some column ∧ t.autoIncrement = true ∧ ((t.defaults.get? column).getD .null).isNull = true

theorem defaults_ofDefinition (d : TableDefinition) (column : String) :
    (ofDefinition d).defaults.get? column = (Store.Operation.create d).default? column := by
  obtain ⟨name, comment, columns⟩ := d
  change Assoc.get? (Assoc.ofPairs (columns.filterMap fun c => c.default.map fun v => (c.name, v))) column =
    columns.reverse.findSome? fun c => if c.name = column then c.default else none
  -- the last definition of the name that has a default is the one that counts, so the list is taken from its end
  induction columns using List.reverseRecOn with
  | nil => rfl
  | append_singleton columns c ih =>
    rw [List.reverse_concat, List.findSome?_cons, ← ih, List.filterMap_append, Assoc.ofPairs, Assoc.extend,
      List.foldl_append]
    cases hdefault : c.default with
    | none => simp [hdefault, Assoc.ofPairs, Assoc.extend]
    | some v =>
      simp only [List.filterMap_cons, hdefault, Option.map_some, List.filterMap_nil, List.foldl_cons, List.foldl_nil,
        Assoc.get?_insert]
      by_cases hname : c.name = column <;> simp [hname, Assoc.ofPairs, Assoc.extend]

theorem fillsWith_ofDefinition (d : TableDefinition) (column : String) :
    (ofDefinition d).FillsWith column ((Store.Operation.create d).default? column) := by
  refine ⟨fun _ => defaults_ofDefinition d column, fun hmissing => ?_⟩
  rw [Bool.eq_false_iff, ne_eq, hasColumn_iff, ← columnNames, columnNames_ofDefinition] at hmissing
  rw [defaults_ofDefinition]
  refine List.findSome?_eq_none_iff.2 fun c hc => if_neg fun hname => hmissing ?_
  exact List.mem_map.2 ⟨c, List.mem_reverse.1 hc, hname⟩

theorem hasColumn_addColumn {c : ColumnDefinition} :
    (t.addColumn c).hasColumn column = true ↔ t.hasColumn column = true ∨ c.name = column := by
  unfold addColumn
  split
  next hc => exact ⟨Or.inl, fun h => h.elim id fun hname => hname ▸ hc⟩
  next => simp [hasColumn, LiveColumn.ofDefinition]

theorem hasColumn_foldl_addColumn {added : List ColumnDefinition} :
    (added.foldl addColumn t).hasColumn column = true ↔
      t.hasColumn column = true ∨ ∃ c ∈ added, c.name = column := by
  induction added generalizing t with
  | nil => simp
  | cons c added ih => rw [List.foldl_cons, ih, hasColumn_addColumn, List.exists_mem_cons_iff, or_assoc]

namespace FillsWith

/-- What the default is does not matter where there is no column. -/
theorem congr {w : Option Value} (h : t.FillsWith column v) (hv : t.hasColumn column = true → v = w) :
    t.FillsWith column w :=
  ⟨fun hcolumn => (h.present hcolumn).trans (hv hcolumn), h.missing⟩

/-- A column that is added brings its default, and one that is there keeps it. -/
theorem addColumn (h : t.FillsWith column v) (c : ColumnDefinition) :
    (t.addColumn c).FillsWith column (if t.hasColumn column then v else c.default) := by
  -- a column of another name changes neither whether this one is there nor its default
  by_cases hname : c.name = column
  · subst hname
    unfold Table.addColumn
    split
    next => exact h
    next hnew =>
      rw [Bool.not_eq_true] at hnew
      refine ⟨fun _ => ?_, fun hmissing => ?_⟩
      · dsimp only
        cases c.default with
        | some v => exact Assoc.get?_insert_self _ _ _
        | none => exact h.missing hnew
      · simp [hasColumn, LiveColumn.ofDefinition] at hmissing
  · have hsame : (t.addColumn c).hasColumn column = t.hasColumn column := by
      rw [Bool.eq_iff_iff, hasColumn_addColumn, or_iff_left hname]
    have hdefaults : (t.addColumn c).defaults.get? column = t.defaults.get? column := by
      unfold Table.addColumn
      split
      · rfl
      · dsimp only
        split
        · exact Assoc.get?_insert_of_ne hname
        · rfl
    refine ⟨fun hcolumn => ?_, fun hmissing => hdefaults.trans (h.missing (hsame ▸ hmissing))⟩
    rw [hdefaults, if_pos (hsame ▸ hcolumn)]
    exact h.present (hsame ▸ hcolumn)

theorem foldl_addColumn (h : t.FillsWith column v) (added : List ColumnDefinition) :
    (added.foldl Table.addColumn t).FillsWith column
      (if t.hasColumn column then v else (added.find? fun c => c.name = column).bind ColumnDefinition.default) := by
  induction added generalizing t v with
  | nil => exact h.congr fun hcolumn => (if_pos hcolumn).symm
  | cons c added ih =>
    refine (ih (h.addColumn c)).congr fun _ => ?_
    by_cases hcolumn : t.hasColumn column = true
    · rw [if_pos (hasColumn_addColumn.2 (Or.inl hcolumn)), if_pos hcolumn, if_pos hcolumn]
    · rw [if_neg hcolumn, if_neg hcolumn]
      by_cases hname : c.name = column
      · -- the later definitions of the name find the column there
        rw [if_pos (hasColumn_addColumn.2 (Or.inr hname)), List.find?_cons_of_pos (by simpa using hname)]
        rfl
      · have hnot : ¬ (t.addColumn c).hasColumn column = true := fun hadded =>
          (hasColumn_addColumn.1 hadded).elim hcolumn hname
        rw [if_neg hnot, List.find?_cons_of_neg (by simpa using hname)]

theorem of_eq (h : t.FillsWith column v) (hcolumns : t'.columnNames = t.columnNames)
    (hdefaults : t'.defaults = t.defaults) : t'.FillsWith column v := by
  have hsame : t'.hasColumn column = t.hasColumn column := by
    rw [Bool.eq_iff_iff, hasColumn_iff, hasColumn_iff]
    exact iff_of_eq (congrArg (column ∈ ·) hcolumns)
  exact ⟨fun hcolumn => hdefaults ▸ h.present (hsame ▸ hcolumn), fun hmissing =>
    hdefaults ▸ h.missing (hsame ▸ hmissing)⟩

end FillsWith

theorem defaults_foldl_changeColumn (changed : List ColumnDefinition) (t : Table) :
    (changed.foldl changeColumn t).defaults = t.defaults := by
  rw [foldl_changeColumn]

theorem columnNames_foldl_changeColumn (changed : List ColumnDefinition) (t : Table) :
    (changed.foldl changeColumn t).columnNames = t.columnNames := by
  rw [foldl_changeColumn]
  exact List.foldlRecOn (motive := fun live => live.map LiveColumn.name = t.columnNames) changed _ rfl
    fun live hlive c _ => (Sound.names_replaceColumn c live).trans hlive

theorem hasColumn_of_alter {name : String} {d : TableDiff} (h : t.alter name d = .ok t') :
    t'.hasColumn column = true ↔ t.hasColumn column = true ∨ ∃ c ∈ d.add, c.name = column := by
  obtain ⟨-, -, rfl⟩ := eq_of_alter h
  rw [hasColumn_iff, ← columnNames, columnNames_foldl_changeColumn, columnNames, ← hasColumn_iff,
    hasColumn_foldl_addColumn]

/-- An operation that brings a column in gives it the default that it declares, and others leave the default alone. -/
theorem Makes.fillsWith (hmakes : t.Makes op t') (h : t.FillsWith column v) :
    t'.FillsWith column (if !t.hasColumn column && t'.hasColumn column then op.default? column else v) := by
  have hsame (hop : ∀ name d, op ≠ .alter name d) :
      t'.FillsWith column (if !t.hasColumn column && t'.hasColumn column then op.default? column else v) := by
    have hemptied := hmakes.emptied hop
    have hcolumns : t'.columns = t.columns := by simpa using congrArg Table.columns hemptied
    have hdefaults : t'.defaults = t.defaults := by simpa using congrArg Table.defaults hemptied
    rw [hasColumn, hasColumn, hcolumns, Bool.not_and_self]
    exact h.of_eq (congrArg (List.map LiveColumn.name) hcolumns) hdefaults
  cases op with
  | alter name d =>
    cases hmakes with
    | alter halter =>
      obtain ⟨-, -, rfl⟩ := eq_of_alter halter
      have hfills := (h.foldl_addColumn d.add).of_eq (columnNames_foldl_changeColumn d.change _)
        (defaults_foldl_changeColumn d.change _)
      refine hfills.congr fun hcolumn => ?_
      rw [hcolumn, Bool.and_true]
      cases t.hasColumn column <;> rfl
  | create | drop | insert | insertAll | update | delete =>
    refine hsame fun _ _ hop => ?_
    cases hop

/-- A cell that is not given holds the default of its column, unless it is numbered. -/
theorem get?_build_of_omitted {name : String} {values row : Record} {next next' : Int}
    (hbuilt : t.build name values next = .ok (row, next')) (hcolumn : t.hasColumn column = true)
    (homitted : values.get? column = none) (hnumbers : ¬ t.Numbers column) :
    row.get? column = some ((t.defaults.get? column).getD .null) := by
  have hrow : (t.withKey (t.complete values) next).1 = row := congrArg Prod.fst (build_eq_ok_iff.1 hbuilt).2.2
  have hcomplete : (t.complete values).get? column = some ((t.defaults.get? column).getD .null) := by
    rw [get?_complete values hcolumn, homitted]
    rfl
  have hkept : ¬(t.primaryKey = some column ∧ t.autoIncrement = true ∧ (t.complete values).isNullAt column = true) := by
    rintro ⟨hkey, hauto, hnull⟩
    rw [Record.isNullAt, hcomplete] at hnull
    exact hnumbers ⟨hkey, hauto, hnull⟩
  rw [← hrow, get?_withKey hkept, hcomplete]

theorem get?_of_buildAll {name : String} {columns : List String} {rows : List (List Value)} {next last : Int}
    {built : List Record} (hbuilt : t.buildAll name columns next rows = .ok (built, last)) (hs : t.Sound)
    (h : t.FillsWith column v) (homitted : column ∉ columns) (hnumbers : ¬ t.Numbers column) :
    ∀ row ∈ built, row.get? column = if t.hasColumn column = true then some (v.getD .null) else none := by
  intro row hrow
  split
  next hcolumn =>
    obtain ⟨values, first, middle, hone⟩ := exists_of_mem_buildAll hbuilt hrow
    have hnone : (Assoc.ofPairs (columns.zip values)).get? column = none := by
      refine Assoc.get?_extend_of_not_mem fun hin => homitted ?_
      obtain ⟨⟨name, value⟩, he, rfl⟩ := List.mem_map.1 hin
      exact (List.of_mem_zip he).1
    rw [get?_build_of_omitted hone hcolumn hnone hnumbers, h.present hcolumn]
  next hmissing =>
    rw [Assoc.get?_eq_none_iff]
    exact fun hin => hmissing ((hs.mem_keys_buildAll hbuilt row hrow column).1 hin)

end Table

namespace Store

variable {s : Store} {name column : String} {v : Option Value} {op : Operation}

/-- Whether the table of a name has a given default for a column, if it is there and has the column. -/
def FillsWith (s : Store) (name column : String) (v : Option Value) : Prop :=
  ∀ t, s.tables.get? name = some t → t.FillsWith column v

theorem hasColumn_of_get? {t : Table} (ht : s.tables.get? name = some t) :
    s.hasColumn name column = t.hasColumn column := by
  rw [hasColumn, ht]
  rfl

theorem hasColumn_of_get?_none (ht : s.tables.get? name = none) : s.hasColumn name column = false := by
  rw [hasColumn, ht]
  rfl

theorem FillsWith.step (h : s.FillsWith name column v) (hd : Assoc.Distinct s.tables) (op : Operation) :
    (s.step op).FillsWith name column (if s.brings name column op then op.default? column else v) := by
  intro t ht
  obtain hsame | ⟨-, ⟨d, rfl, hnone, hmade⟩ | ⟨rfl, hdropped⟩ | ⟨t₀, t', ht₀, ht', hmakes⟩⟩ := get?_step_cases s op name
  · rw [brings, hasColumn, hasColumn, hsame, Bool.not_and_self]
    exact h t (hsame ▸ ht)
  · obtain rfl := Option.some.inj (hmade.symm.trans ht)
    refine (Table.fillsWith_ofDefinition d column).congr fun hcolumn => ?_
    rw [brings, hasColumn_of_get?_none hnone, hasColumn_of_get? hmade, hcolumn]
    rfl
  · rw [hdropped, Assoc.get?_eq_none_iff.2 (hd.not_mem_keys_erase name)] at ht
    cases ht
  · obtain rfl := Option.some.inj (ht'.symm.trans ht)
    rw [brings, hasColumn_of_get? ht₀, hasColumn_of_get? ht']
    exact hmakes.fillsWith (h t₀ ht₀)

theorem FillsWith.run (h : s.FillsWith name column v) (hd : Assoc.Distinct s.tables) (ops : List Operation) :
    (s.run ops).FillsWith name column (s.entryDefault name column v ops) := by
  induction ops generalizing s v with
  | nil => exact h
  | cons op ops ih => exact ih (h.step hd op) (distinct_step hd)

/-- The defaults of a stored table are those with which its columns came in. -/
theorem fillsWith_run (ops : List Operation) (name column : String) :
    (empty.run ops).FillsWith name column (empty.entryDefault name column none ops) :=
  FillsWith.run (s := empty) (fun _ ht => nomatch ht) List.nodup_nil ops

theorem brings_of_hasColumn (h : s.hasColumn name column = true) : s.brings name column op = false := by
  rw [brings, h]
  rfl

theorem hasColumn_step (h : s.hasColumn name column = true) (hop : op ≠ .drop name) :
    (s.step op).hasColumn name column = true := by
  obtain hsame | ⟨-, ⟨d, -, hnone, -⟩ | ⟨rfl, -⟩ | ⟨t, t', ht, ht', hmakes⟩⟩ := get?_step_cases s op name
  · rw [hasColumn, hsame]
    exact h
  · cases (hasColumn_of_get?_none hnone).symm.trans h
  · exact absurd rfl hop
  · rw [hasColumn_of_get? ht, Table.hasColumn_iff] at h
    rw [hasColumn_of_get? ht', Table.hasColumn_iff]
    refine hmakes.columns_rec (motive := fun live => column ∈ live.map LiveColumn.name) h (fun live c hlive _ => ?_)
      fun live c hlive => ?_
    · rw [List.map_append]
      exact List.mem_append_left _ hlive
    · rw [Table.Sound.names_replaceColumn]
      exact hlive

/-- As long as a table is not dropped its columns stay, and so do the defaults with which they came in. -/
theorem hasColumn_run {ops : List Operation} (h : s.hasColumn name column = true)
    (hops : ∀ op ∈ ops, op ≠ .drop name) :
    (s.run ops).hasColumn name column = true ∧ s.entryDefault name column v ops = v := by
  induction ops generalizing s with
  | nil => exact ⟨h, rfl⟩
  | cons op ops ih =>
    rw [List.forall_mem_cons] at hops
    rw [entryDefault, brings_of_hasColumn h]
    exact ih (hasColumn_step h hops.1) hops.2

end Store

namespace Model

variable {m : Model} {s s' : Store} {c : Column} {force : Bool} {report : MigrationReport}

/-- The default of a column after a migration of the store that operations have made: the declared one when the
migration has made the table or added the column, and otherwise the one with which the column came in before. -/
def defaultAfter (m : Model) (ops : List Store.Operation) (report : MigrationReport) (c : Column) : Option Value :=
  if report.created = true ∨ c.name ∈ report.added then c.default
  else Store.empty.entryDefault m.tableName c.name none ops

theorem mem_added_iff {t : Table} (hc : c ∈ m.columns) :
    c.name ∈ (m.altered t.columns).added ↔ t.hasColumn c.name = false := by
  change c.name ∈ (diff Kind.name m t.columns).add.map ColumnDefinition.name ↔ _
  rw [names_add]
  constructor
  · intro h
    obtain ⟨c', hc', hname⟩ := List.mem_map.1 h
    rw [← hname]
    simpa using (List.mem_filter.1 hc').2
  · exact fun h => List.mem_map_of_mem (List.mem_filter.2 ⟨hc, by rw [h]; rfl⟩)

theorem Coherent.default?_diff (hm : m.Coherent) {t : Table} (hc : c ∈ m.columns)
    (hmissing : t.hasColumn c.name = false) :
    (Store.Operation.alter m.tableName (diff Kind.name m t.columns)).default? c.name = c.default := by
  have hadded : m.definition c ∈ (diff Kind.name m t.columns).add := by
    refine mem_add.2 ⟨List.mem_map_of_mem hc, fun hin => ?_⟩
    rw [name_definition, ← Table.hasColumn_iff, hmissing] at hin
    cases hin
  have hfind := find?_name (hm.nodup_add Kind.name t.columns) hadded
  rw [name_definition] at hfind
  rw [Store.Operation.default?, hfind, Option.bind_some, default_definition]

/-- After a migration without force the table has every declared column, with the declared default if it is new. -/
theorem Coherent.fillsWith_migrated (hm : m.Coherent) (hc : c ∈ m.columns) {v : Option Value}
    (hs : s.FillsWith m.tableName c.name v) (h : m.migrate s false = .ok (report, s')) :
    s'.hasColumn m.tableName c.name = true ∧
      s'.FillsWith m.tableName c.name (if report.created = true ∨ c.name ∈ report.added then c.default else v) := by
  obtain ⟨-, rfl, rfl⟩ | ⟨t, t', ht, halter, rfl, rfl⟩ := migrate_cases h
  · have hget := Assoc.get?_insert_self s.tables m.tableName (.ofDefinition m.table)
    have hcolumn : (Table.ofDefinition m.table).hasColumn c.name = true := by
      rw [Table.hasColumn_iff, ← Table.columnNames, columnNames_made]
      exact List.mem_map_of_mem hc
    refine ⟨(Store.hasColumn_of_get? hget).trans hcolumn, fun u hu => ?_⟩
    obtain rfl := Option.some.inj (hget.symm.trans hu)
    refine (Table.fillsWith_ofDefinition m.table c.name).congr fun _ => ?_
    rw [if_pos (Or.inl rfl), ← Table.defaults_ofDefinition]
    exact hm.defaults_made hc
  · have hget := Assoc.get?_insert_self s.tables m.tableName t'
    have hadded : c.name ∈ (m.altered t.columns).added ↔ t.hasColumn c.name = false := mem_added_iff hc
    have hcolumn : t'.hasColumn c.name = true := by
      rw [Table.hasColumn_of_alter halter, or_iff_not_imp_left, Bool.not_eq_true]
      intro hmissing
      obtain ⟨d, hd, hname⟩ := List.mem_map.1 (hadded.2 hmissing)
      exact ⟨d, hd, hname⟩
    refine ⟨(Store.hasColumn_of_get? hget).trans hcolumn, fun u hu => ?_⟩
    obtain rfl := Option.some.inj (hget.symm.trans hu)
    refine ((Table.Makes.alter halter).fillsWith (hs t ht)).congr fun _ => ?_
    rw [hcolumn, Bool.and_true]
    cases hold : t.hasColumn c.name with
    | true =>
      -- a column that was there is not added, whether it is changed or not
      rw [hold] at hadded
      have hnot : ¬((m.altered t.columns).created = true ∨ c.name ∈ (m.altered t.columns).added) :=
        not_or.2 ⟨Bool.false_ne_true, fun hin => Bool.noConfusion (hadded.1 hin)⟩
      exact (if_neg hnot).symm
    | false => exact (hm.default?_diff hc hold).trans (if_pos (Or.inr (hadded.2 hold))).symm

theorem exists_run_of_migrate (h : m.migrate s force = .ok (report, s')) : ∃ ops, s' = s.run ops := by
  have hunforced : ∀ s₀ : Store, m.migrate s₀ false = .ok (report, s') → ∃ ops, s' = s₀.run ops := by
    intro s₀ h₀
    have hone : ∀ op, s₀.perform op = .ok s' → ∃ ops, s' = s₀.run ops := by
      intro op hp
      exact ⟨[op], by rw [Store.run, List.foldl_cons, List.foldl_nil, Store.step, hp]⟩
    obtain rfl | ⟨d, halter⟩ | ⟨-, hcreate⟩ := Handle.migrate_cases (h := ⟨⟨⟨[]⟩, s₀⟩, m⟩) h₀
    · exact ⟨[], rfl⟩
    · exact hone (.alter m.tableName d) halter
    · exact hone (.create m.table) hcreate
  cases force with
  | false => exact hunforced s h
  | true =>
    obtain ⟨ops, hops⟩ := hunforced _ h
    exact ⟨.drop m.tableName :: ops, hops⟩

/-- After a migration, with force or without, the table has every declared column, and the defaults that are said to
be there after it. -/
theorem Coherent.fillsWith_defaultAfter (hm : m.Coherent) (hc : c ∈ m.columns) {ops : List Store.Operation}
    (h : m.migrate (Store.empty.run ops) force = .ok (report, s')) :
    s'.hasColumn m.tableName c.name = true ∧
      s'.FillsWith m.tableName c.name (m.defaultAfter ops report c) := by
  cases force with
  | false => exact hm.fillsWith_migrated hc (Store.fillsWith_run ops _ _) h
  | true =>
    have hdropped : ((Store.empty.run ops).drop m.tableName).tables.get? m.tableName = none :=
      Assoc.get?_eq_none_iff.2 ((Store.distinct_run ops).not_mem_keys_erase m.tableName)
    refine hm.fillsWith_migrated hc (fun t ht => ?_) h
    cases hdropped.symm.trans ht

/-- Raw inserts fill in the defaults with which the columns came into the table. After a migration has succeeded, and
whatever operations follow it, an insert through the model that succeeds adds a row for each that was given, and each
of them has in an omitted column that the table has the default with which the column last came in, or null if it came
without one, unless the table numbers its rows there. For a column that the migration brought in, or that came with the
table that it made, this is the declared default; one that was there before has the default that it came in with. As
long as the table is not dropped it has every declared column, and they keep these defaults. -/
theorem inserts_take_entry_defaults {name source : String} {declared : Metadata}
    (hresolve : resolve name source declared = .ok m) {ops : List Store.Operation}
    (h : m.migrate (Store.empty.run ops) force = .ok (report, s')) {later : List Store.Operation} {registry : Registry}
    {columns : List String} {rows : List (List Value)} {n : Nat} {s'' : Store}
    (hinsert : (Handle.mk ⟨registry, s'.run later⟩ m).insert columns rows = .ok (n, s'')) :
    ∃ t built, (s'.run later).tables.get? m.tableName = some t ∧ s''.rowsOf m.tableName = t.rows ++ built ∧
      built.length = rows.length ∧
      ∀ c ∈ m.columns,
        (c.name ∉ columns → ¬ t.Numbers c.name → ∀ row ∈ built, row.get? c.name =
          if t.hasColumn c.name = true then
            some ((s'.entryDefault m.tableName c.name (m.defaultAfter ops report c) later).getD .null)
          else none) ∧
        ((∀ op ∈ later, op ≠ .drop m.tableName) → t.hasColumn c.name = true ∧
          s'.entryDefault m.tableName c.name (m.defaultAfter ops report c) later = m.defaultAfter ops report c) := by
  have hm := coherent_of_resolved hresolve
  obtain ⟨-, hinsert⟩ := check_bind_eq_ok_iff.1 hinsert
  obtain ⟨-, hinsert⟩ := check_bind_eq_ok_iff.1 hinsert
  obtain ⟨t, t', ht, hadded, rfl⟩ := Store.exists_put (Library.ofStore_eq_ok_iff.1 hinsert)
  obtain ⟨built, next, hbuilt, -, -, rfl⟩ := Table.exists_of_insertAll hadded
  -- the migration is a part of the run, so that what holds of all runs holds of the store after it
  obtain ⟨migrating, hmigrated⟩ := exists_run_of_migrate h
  have hrun : s' = Store.empty.run (ops ++ migrating) := hmigrated.trans List.foldl_append.symm
  have hs : (s'.run later).Sound := (hrun ▸ Store.sound_run _).run later
  have hd : Assoc.Distinct s'.tables := hrun ▸ Store.distinct_run _
  refine ⟨t, built, ht, ?_, Table.length_of_buildAll hbuilt, fun c hc => ?_⟩
  · exact Library.rowsOf_eq (l := ⟨registry, _⟩) (Assoc.get?_insert_self _ _ _)
  obtain ⟨hcolumn, hfills⟩ := hm.fillsWith_defaultAfter hc h
  refine ⟨fun homitted hnumbers => ?_, fun hkept => ?_⟩
  · exact Table.get?_of_buildAll hbuilt (hs.table ht) (hfills.run hd later t ht) homitted hnumbers
  · rw [← Store.hasColumn_of_get? ht]
    exact Store.hasColumn_run hcolumn hkept

end Model

namespace Sample

/-- Orders as they were stored before they had a status, and one of them. -/
def addingFormerOrder : List Store.Operation :=
  [.create ⟨"orders", none,
      [⟨"id", .id, false, none, true, false, false⟩, ⟨"note", .string 255, true, none, false, false, false⟩]⟩,
    .insert "orders" [("note", .text "a")]]

/-- The store after a migration of one that operations have made. -/
def migrated (m : Model) (ops : List Store.Operation) : Store :=
  match m.migrate (Store.empty.run ops) false with
  | .ok (_, s) => s
  | .error _ => Store.empty

/-- The migration of the orders adds the status. After the former order is removed another one is added, which does
not say its status and so is open. -/
theorem next_order_open :
    order.migrate (Store.empty.run addingFormerOrder) false =
        .ok (⟨"orders", false, ["status"], [], []⟩, migrated order addingFormerOrder) ∧
      ∃ n s'', (Handle.mk ⟨⟨[]⟩, (migrated order addingFormerOrder).run [.delete "orders" []]⟩ order).insert
          ["note"] [[.text "b"]] = .ok (n, s'') ∧
        (s''.rowsOf "orders").length = 1 ∧ ∀ row ∈ s''.rowsOf "orders", row.get? "status" = some (.text "open") := by
  have hmigrate : order.migrate (Store.empty.run addingFormerOrder) false =
    .ok (⟨"orders", false, ["status"], [], []⟩, migrated order addingFormerOrder) := rfl
  have hinsert : (Handle.mk ⟨⟨[]⟩, (migrated order addingFormerOrder).run [.delete "orders" []]⟩ order).insert
    ["note"] [[.text "b"]] = .ok (_, _) := rfl
  obtain ⟨t, built, ht, hrows, hlength, hfilled⟩ := Model.inserts_take_entry_defaults resolve_order hmigrate hinsert
  have hnone : t.rows = [] := (Option.some.inj (congrArg (Option.map Table.rows) ht)).symm
  have hkey : t.primaryKey = some "id" := (Option.some.inj (congrArg (Option.map Table.primaryKey) ht)).symm
  obtain ⟨c, hc, hname, hdefault⟩ : ∃ c ∈ order.columns, c.name = "status" ∧ c.default = some (.text "open") :=
    ⟨_, List.mem_of_getElem? (i := 1) rfl, rfl, rfl⟩
  obtain ⟨hfilled, hkept⟩ := hfilled c hc
  obtain ⟨hcolumn, hentry⟩ := hkept (by simp)
  have hnumbers : ¬ t.Numbers c.name := fun h => by simpa [hkey, hname] using h.1
  rw [hnone, List.nil_append] at hrows
  refine ⟨hmigrate, _, _, hinsert, hrows ▸ hlength, fun row hrow => ?_⟩
  have hcell := hfilled (by simp [hname]) hnumbers row (hrows ▸ hrow)
  rw [if_pos hcolumn, hentry, Model.defaultAfter, if_pos (by simp [hname]), hdefault, hname] at hcell
  exact hcell

/-- Orders that are new unless they are said to be something else. -/
def newOrder : Model :=
  resolved (declaredOrder "new")

/-- Tickets are numbered. -/
def formerTicket : Model :=
  resolved
    { name := "ticket"
      table := ⟨"tickets", none⟩
      columns := [.added "uid" "ID" true, .added "note" "text" true]
      relations := []
      options := ⟨false, false⟩ }

/-- Tickets have a number under another name now, and may have the former one. -/
def declaredTicket : Metadata :=
  { name := "ticket"
    table := ⟨"tickets", none⟩
    columns := [.added "id" "ID" true, .added "uid" "bigint" true, .added "note" "text" true]
    relations := []
    options := ⟨false, false⟩ }

def ticket : Model :=
  resolved declaredTicket

/-- The declared default is not always the one that is filled in. A migration of orders that were open by default finds
nothing to do, and they stay so; and tickets that are not given a former number get one, as they did before. -/
theorem former_defaults_filled_in :
    (Model.resolve "order" "" (declaredOrder "new") = .ok newOrder ∧
      newOrder.migrate (Store.empty.run [.create order.table]) false =
        .ok (⟨"orders", false, [], [], []⟩, migrated newOrder [.create order.table]) ∧
      (newOrder.column? "status").map Column.default = some (some (.text "new")) ∧
      ∃ n s'', (Handle.mk ⟨⟨[]⟩, migrated newOrder [.create order.table]⟩ newOrder).insert
          ["note"] [[.text "a"]] = .ok (n, s'') ∧
        s''.rowsOf "orders" = [[("id", .int 1), ("status", .text "open"), ("note", .text "a")]]) ∧
      Model.resolve "ticket" "" declaredTicket = .ok ticket ∧ ticket.primaryKey = "id" ∧
      ticket.migrate (Store.empty.run [.create formerTicket.table]) false =
        .ok (⟨"tickets", false, ["id"], ["uid"], []⟩, migrated ticket [.create formerTicket.table]) ∧
      (ticket.column? "uid").map Column.default = some none ∧
      ∃ n s'', (Handle.mk ⟨⟨[]⟩, migrated ticket [.create formerTicket.table]⟩ ticket).insert
          ["id", "note"] [[.int 1, .text "a"]] = .ok (n, s'') ∧
        s''.rowsOf "tickets" = [[("uid", .int 1), ("note", .text "a"), ("id", .int 1)]] :=
  ⟨⟨rfl, rfl, rfl, _, _, rfl, rfl⟩, rfl, rfl, rfl, rfl, _, _, rfl, rfl⟩

end Sample

end DataModel

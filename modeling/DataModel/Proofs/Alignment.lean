import DataModel.Proofs.Layout

/-!
# Rows in the order of their columns

A row is written in five ways: it is built from given values, alone or in a batch, some of its cells are set, it gets
a cell when a column is added, and it stays as it is when a column is changed. None of them adds a cell that no column
asks for, leaves one out, or puts one in another place. So where tables are made with columns of different names, the
keys of every row are the names of the columns of its table, in their order.
-/

namespace DataModel

namespace Table

/-- Whether the keys of every row are the names of the columns in their order. The names differ, and the primary key
is one of them. -/
structure Aligned (t : Table) : Prop where
  names : t.columnNames.Nodup
  primary : ∀ key, t.primaryKey = some key → key ∈ t.columnNames
  rows : ∀ row ∈ t.rows, row.keys = t.columnNames

variable {t t' : Table} {name : String}

theorem keys_complete (h : t.columnNames.Nodup) (values : Record) : (t.complete values).keys = t.columnNames := by
  rw [complete_eq]
  exact Assoc.keys_ofPairs_map _ h

/-- A key that is generated takes the place of the null that was there. -/
theorem keys_withKey (hprimary : ∀ key, t.primaryKey = some key → key ∈ t.columnNames) {row : Record}
    (hrow : row.keys = t.columnNames) (next : Int) : (t.withKey row next).1.keys = t.columnNames := by
  unfold withKey
  cases hkey : t.primaryKey with
  | none => exact hrow
  | some key =>
    dsimp only
    split
    · rw [Assoc.keys_insert_of_mem (hrow ▸ hprimary key hkey), hrow]
    · split <;> exact hrow

theorem aligned_ofDefinition {d : TableDefinition} (h : (d.columns.map ColumnDefinition.name).Nodup) :
    (ofDefinition d).Aligned where
  names := columnNames_ofDefinition d ▸ h
  primary key hkey := hasColumn_iff.1 ((sound_ofDefinition d).primary key hkey)
  rows _ hrow := absurd hrow List.not_mem_nil

namespace Aligned

variable (h : t.Aligned)
include h

theorem keys_build {values row : Record} {next next' : Int} (hb : t.build name values next = .ok (row, next')) :
    row.keys = t.columnNames := by
  obtain ⟨-, -, hkeyed⟩ := build_eq_ok_iff.1 hb
  have hrow : (t.withKey (t.complete values) next).1 = row := congrArg Prod.fst hkeyed
  rw [← hrow]
  exact keys_withKey h.primary (keys_complete h.names values) next

theorem keys_buildAll {columns : List String} {rows : List (List Value)} {next last : Int} {built : List Record}
    (hb : t.buildAll name columns next rows = .ok (built, last)) : ∀ row ∈ built, row.keys = t.columnNames := by
  intro row hrow
  obtain ⟨values, first, middle, hbuilt⟩ := exists_of_mem_buildAll hb hrow
  exact h.keys_build hbuilt

theorem append {rows : List Record} (hrows : ∀ row ∈ rows, row.keys = t.columnNames) (next : Int) :
    Aligned { t with nextId := next, rows := t.rows ++ rows } :=
  ⟨h.names, h.primary, List.forall_mem_append.2 ⟨h.rows, hrows⟩⟩

/-- Cells are set under columns that are there, so every key stays in its place. -/
theorem update {filter : List Where} {values : Record} {n : Nat} (hu : t.update name filter values = .ok (n, t')) :
    t'.Aligned := by
  obtain ⟨hcolumns, rfl⟩ := eq_of_update hu
  refine ⟨h.names, h.primary, List.forall_mem_map.2 fun row hrow => ?_⟩
  split
  · rw [Assoc.keys_extend_of_mem fun key hkey => h.rows row hrow ▸ hasColumn_iff.1 (hcolumns key hkey)]
    exact h.rows row hrow
  · exact h.rows row hrow

/-- A new column is the last one, and so is its cell in every row. One that is there already is left alone. -/
theorem addColumn (c : ColumnDefinition) : (t.addColumn c).Aligned := by
  unfold Table.addColumn
  split
  · exact h
  next hnew =>
    have hmissing : c.name ∉ t.columnNames := fun hin => hnew (hasColumn_iff.2 hin)
    have hnames : columnNames { t with columns := t.columns ++ [.ofDefinition c] } = t.columnNames ++ [c.name] :=
      List.map_append
    refine ⟨?_, fun key hkey => ?_, List.forall_mem_map.2 fun row hrow => ?_⟩
    · change (columnNames { t with columns := t.columns ++ [.ofDefinition c] }).Nodup
      rw [hnames, List.nodup_append_comm, List.singleton_append]
      exact List.nodup_cons.2 ⟨hmissing, h.names⟩
    · change key ∈ columnNames { t with columns := t.columns ++ [.ofDefinition c] }
      rw [hnames]
      exact List.mem_append_left _ (h.primary key hkey)
    · rw [Assoc.keys_insert_of_not_mem (h.rows row hrow ▸ hmissing), h.rows row hrow]
      exact hnames.symm

theorem changeColumn (c : ColumnDefinition) : (t.changeColumn c).Aligned := by
  have hnames : (t.changeColumn c).columnNames = t.columnNames := Sound.names_replaceColumn c t.columns
  exact ⟨hnames ▸ h.names, fun key hkey => hnames ▸ h.primary key hkey, fun row hrow => hnames ▸ h.rows row hrow⟩

end Aligned

/-- Every operation on a table keeps its rows in the order of its columns. -/
theorem Makes.aligned {op : Store.Operation} (hmakes : t.Makes op t') (h : t.Aligned) : t'.Aligned := by
  cases hmakes with
  -- an alter adds columns and changes columns one after the other
  | alter ha => exact alter_rec ha h (fun _ hu c => hu.addColumn c) fun _ hu c => hu.changeColumn c
  | insert hi =>
    obtain ⟨row, next, hrow, -, -, rfl⟩ := exists_of_insert hi
    exact h.append (List.forall_mem_singleton.2 (h.keys_build hrow)) next
  | insertAll hi =>
    obtain ⟨built, next, hbuilt, -, -, rfl⟩ := exists_of_insertAll hi
    exact h.append (h.keys_buildAll hbuilt) next
  | update hu => exact h.update hu
  | delete hd =>
    obtain rfl := eq_of_delete hd
    exact ⟨h.names, h.primary, fun row hrow => h.rows row (List.mem_filter.1 hrow).1⟩

end Table

namespace Store

/-- Whether the tables that operations make, each on the store it meets, have columns of different names. What would
be made under a name that is taken is not made, so nothing is asked of it. -/
def MakesDistinct : Store → List Operation → Prop
  | _, [] => True
  | s, op :: ops =>
    (∀ d, op = .create d → s.hasTable d.name = false → (d.columns.map ColumnDefinition.name).Nodup) ∧
      MakesDistinct (s.step op) ops

theorem aligned_run {s : Store} (hs : ∀ e ∈ s.tables, e.2.Aligned) {ops : List Operation} (h : s.MakesDistinct ops) :
    ∀ e ∈ (s.run ops).tables, e.2.Aligned := by
  induction ops generalizing s with
  | nil => exact hs
  | cons op ops ih =>
    refine ih (forall_tables_step hs (fun d hd hnew => ?_) fun _ _ hmakes ht => hmakes.aligned ht) h.2
    exact Table.aligned_ofDefinition (h.1 d hd hnew)

/-- After every run of operations from nothing, successful or failing, the keys of every row of every table are the
names of its columns, in their order, when the tables were made with columns of different names. -/
theorem keys_eq_columnNames_of_run (ops : List Operation) (h : empty.MakesDistinct ops) :
    ∀ e ∈ (empty.run ops).tables, ∀ row ∈ e.2.rows, row.keys = e.2.columnNames :=
  fun e he => (aligned_run (fun _ hnone => absurd hnone List.not_mem_nil) h e he).rows

end Store

namespace Sample

/-- After two people were added, a table of their name with two columns of one name is refused. Then ages are added
twice over and again names, names may be missing from now on, two more people are added with their cells in another
order, and all of them get an age. -/
def reshapingPeople : List Store.Operation :=
  addingPeople ++
    [.create ⟨"people", none,
        [⟨"x", .text, true, none, false, false, false⟩, ⟨"x", .text, true, none, false, false, false⟩]⟩,
      .alter "people"
        ⟨[⟨"age", .integer, true, none, false, false, false⟩, ⟨"name", .integer, true, none, false, false, false⟩,
            ⟨"age", .text, true, some (.text "old"), false, false, false⟩],
          [⟨"name", .text, true, none, false, false, false⟩]⟩,
      .insertAll "people" ["age", "id"] [[.int 30, .int 9], [.null, .null]],
      .insert "people" [("age", .int 1), ("height", .int 2)],
      .update "people" [] [("age", .int 40), ("name", .null)]]

/-- Each of the four people has a number, a name and an age, in this order. -/
theorem people_aligned :
    Store.empty.MakesDistinct reshapingPeople ∧
      ∀ t, (Store.empty.run reshapingPeople).tables.get? "people" = some t → t.rows.length = 4 ∧
        ∀ row ∈ t.rows, row.keys = ["id", "name", "age"] := by
  have hmakes : Store.empty.MakesDistinct reshapingPeople := by
    refine ⟨fun d hd _ => ?_, nofun, nofun, nofun, fun d hd hnew => ?_, nofun, nofun, nofun, nofun, trivial⟩
    · obtain rfl := Store.Operation.create.inj hd
      decide
    · -- the name is taken, so no table is made
      obtain rfl := Store.Operation.create.inj hd
      cases hnew
  refine ⟨hmakes, fun t ht => ?_⟩
  have hnames : some t.columnNames = some ["id", "name", "age"] := congrArg (Option.map Table.columnNames) ht.symm
  have hlength : some t.rows.length = some 4 := congrArg (Option.map fun u : Table => u.rows.length) ht.symm
  refine ⟨Option.some.inj hlength, fun row hrow => ?_⟩
  rw [← Option.some.inj hnames]
  exact Store.keys_eq_columnNames_of_run reshapingPeople hmakes _ (Assoc.mem_of_get? ht) row hrow

end Sample

end DataModel

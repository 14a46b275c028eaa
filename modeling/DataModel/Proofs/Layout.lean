import DataModel.Proofs.Constraints
import DataModel.Proofs.Drift

/-! What a table declares changes only when the table is altered. Its columns are always such as definitions make
them, and have different names when those of the table that was made had. A diff that fits a table leaves its
columns as the diff describes them, and adds to its rows the cells of the added columns and nothing else. -/

namespace DataModel

namespace Store

theorem distinct_step {s : Store} {op : Operation} (hs : Assoc.Distinct s.tables) :
    Assoc.Distinct (s.step op).tables := by
  unfold step
  split
  next s' hp =>
    obtain ⟨d, -, -, rfl⟩ | ⟨name, -, rfl⟩ | ⟨t, t', -, -, rfl⟩ := perform_cases hp
    · exact hs.insert _ _
    · exact hs.erase _
    · exact hs.insert _ _
  next => exact hs

theorem distinct_run (ops : List Operation) : Assoc.Distinct (empty.run ops).tables :=
  List.foldlRecOn (motive := fun s : Store => Assoc.Distinct s.tables) ops step List.nodup_nil
    fun _ hs _ _ => distinct_step hs

/-- What an operation does to the table of a name: nothing, also when it fails, or else it makes the table where there
was none, drops it, or puts what it makes of it. -/
theorem get?_step_cases (s : Store) (op : Operation) (name : String) :
    (s.step op).tables.get? name = s.tables.get? name ∨
      op.target = name ∧
        ((∃ d, op = .create d ∧ s.tables.get? name = none ∧
            (s.step op).tables.get? name = some (.ofDefinition d)) ∨
          (op = .drop name ∧ (s.step op).tables = s.tables.erase name) ∨
          ∃ t t', s.tables.get? name = some t ∧ (s.step op).tables.get? name = some t' ∧ t.Makes op t') := by
  cases hp : s.perform op with
  | error e =>
    have hstep : s.step op = s := by rw [step, hp]
    exact Or.inl (by rw [hstep])
  | ok s' =>
    have hstep : s.step op = s' := by rw [step, hp]
    rw [hstep]
    obtain ⟨d, rfl, hnew, rfl⟩ | ⟨other, rfl, rfl⟩ | ⟨t, t', ht, hmakes, rfl⟩ := perform_cases hp
    · by_cases hname : d.name = name
      · subst hname
        rw [hasTable, Assoc.has, Option.isSome_eq_false_iff, Option.isNone_iff_eq_none] at hnew
        exact Or.inr ⟨rfl, Or.inl ⟨d, rfl, hnew, Assoc.get?_insert_self _ _ _⟩⟩
      · exact Or.inl (Assoc.get?_insert_of_ne hname)
    · by_cases hname : other = name
      · subst hname
        exact Or.inr ⟨rfl, Or.inr (Or.inl ⟨rfl, rfl⟩)⟩
      · exact Or.inl (Assoc.get?_erase_of_ne hname)
    · by_cases hname : op.target = name
      · subst hname
        exact Or.inr ⟨rfl, Or.inr (Or.inr ⟨t, t', ht, Assoc.get?_insert_self _ _ _, hmakes⟩)⟩
      · exact Or.inl (Assoc.get?_insert_of_ne hname)

theorem get?_step_of_ne {s : Store} {op : Operation} {name : String} (hop : op.target ≠ name) :
    (s.step op).tables.get? name = s.tables.get? name :=
  (get?_step_cases s op name).resolve_right fun h => hop h.1

variable {P : Table → Prop} {s : Store}

theorem forall_tables_step {op : Operation} (hs : ∀ e ∈ s.tables, P e.2)
    (hcreate : ∀ d, op = .create d → s.hasTable d.name = false → P (.ofDefinition d))
    (hmakes : ∀ t t', t.Makes op t' → P t → P t') : ∀ e ∈ (s.step op).tables, P e.2 := by
  unfold step
  split
  next s' hp =>
    obtain ⟨d, hop, hnew, rfl⟩ | ⟨name, -, rfl⟩ | ⟨t, t', ht, hmade, rfl⟩ := perform_cases hp
    · intro e he
      rcases Assoc.mem_insert he with rfl | he
      · exact hcreate d hop hnew
      · exact hs e he
    · exact fun e he => hs e (Assoc.mem_of_mem_erase he)
    · intro e he
      rcases Assoc.mem_insert he with rfl | he
      · exact hmakes t t' hmade (hs _ (Assoc.mem_of_get? ht))
      · exact hs e he
  next => exact hs

/-- What is true of the tables that are made and is kept by every operation on a table is true of every table of a
run. -/
theorem forall_tables_run {ops : List Operation} (hs : ∀ e ∈ s.tables, P e.2)
    (hcreate : ∀ d, .create d ∈ ops → P (.ofDefinition d)) (hmakes : ∀ t t' op, t.Makes op t' → P t → P t') :
    ∀ e ∈ (s.run ops).tables, P e.2 := by
  induction ops generalizing s with
  | nil => exact hs
  | cons op ops ih =>
    refine ih (forall_tables_step hs (fun d hd _ => hcreate d ?_) fun t t' => hmakes t t' op) fun d hd => ?_
    · exact hd ▸ List.mem_cons_self
    · exact hcreate d (List.mem_cons_of_mem op hd)

end Store

namespace Table

variable {t t' : Table} {op : Store.Operation}

/-- What a table declares: the table without its rows and with its counter at the start. -/
def emptied (t : Table) : Table :=
  { t with nextId := 1, rows := [] }

@[simp]
theorem columns_emptied (t : Table) : t.emptied.columns = t.columns :=
  rfl

@[simp]
theorem defaults_emptied (t : Table) : t.emptied.defaults = t.defaults :=
  rfl

@[simp]
theorem primaryKey_emptied (t : Table) : t.emptied.primaryKey = t.primaryKey :=
  rfl

/-- Only altering a table changes what it declares. -/
theorem Makes.emptied (h : t.Makes op t') (hop : ∀ name d, op ≠ .alter name d) : t'.emptied = t.emptied := by
  cases h with
  | alter h => exact absurd rfl (hop _ _)
  | insert h =>
    obtain ⟨_, _, -, -, -, rfl⟩ := exists_of_insert h
    rfl
  | insertAll h =>
    obtain ⟨_, _, -, -, -, rfl⟩ := exists_of_insertAll h
    rfl
  | update h =>
    obtain ⟨-, rfl⟩ := eq_of_update h
    rfl
  | delete h =>
    obtain rfl := eq_of_delete h
    rfl

/-- What adding a new column and changing one keep of the columns of a table, every operation keeps. -/
theorem Makes.columns_rec {motive : List LiveColumn → Prop} (h : t.Makes op t') (ht : motive t.columns)
    (hadd : ∀ live c, motive live → c.name ∉ live.map LiveColumn.name → motive (live ++ [.ofDefinition c]))
    (hchange : ∀ live c, motive live → motive (replaceColumn (.ofDefinition c) live)) : motive t'.columns := by
  have hsame (hop : ∀ name d, op ≠ .alter name d) : motive t'.columns := by
    have hcolumns : t'.columns = t.columns := by simpa using congrArg Table.columns (h.emptied hop)
    exact hcolumns ▸ ht
  cases op with
  | alter name d =>
    cases h with
    | alter h =>
      refine alter_rec (motive := fun u => motive u.columns) h ht (fun u hu c => ?_) fun u hu c =>
        hchange u.columns c hu
      unfold addColumn
      split
      · exact hu
      next hnew => exact hadd u.columns c hu fun hc => hnew (hasColumn_iff.2 hc)
  | create | drop | insert | insertAll | update | delete =>
    refine hsame fun _ _ hop => ?_
    cases hop

/-- Whether every column is such as some definition makes it. -/
def Described (t : Table) : Prop :=
  ∀ l ∈ t.columns, ∃ c, l = LiveColumn.ofDefinition c

/-- The names of the columns. -/
def columnNames (t : Table) : List String :=
  t.columns.map LiveColumn.name

theorem columnNames_ofDefinition (d : TableDefinition) :
    (ofDefinition d).columnNames = d.columns.map ColumnDefinition.name := by
  rw [columnNames, ofDefinition, List.map_map]
  rfl

theorem described_ofDefinition (d : TableDefinition) : (ofDefinition d).Described :=
  List.forall_mem_map.2 fun c _ => ⟨c, rfl⟩

theorem Makes.described (h : t.Makes op t') (ht : t.Described) : t'.Described :=
  h.columns_rec (motive := fun live => ∀ l ∈ live, ∃ c, l = LiveColumn.ofDefinition c) ht
    (fun _ c hlive _ => List.forall_mem_append.2 ⟨hlive, List.forall_mem_singleton.2 ⟨c, rfl⟩⟩)
    fun _ c hlive l hl => (mem_replaceColumn hl).elim (fun he => ⟨c, he⟩) (hlive l)

theorem Makes.nodup_columnNames (h : t.Makes op t') (ht : t.columnNames.Nodup) : t'.columnNames.Nodup :=
  h.columns_rec (motive := fun live => (live.map LiveColumn.name).Nodup) ht
    (fun _ c hlive hnew => by
      rw [List.map_append, List.map_singleton, List.nodup_append_comm, List.singleton_append]
      exact List.nodup_cons.2 ⟨hnew, hlive⟩)
    fun _ _ hlive => by
      rw [Sound.names_replaceColumn]
      exact hlive

/-- A table after a diff: its columns are as the diff describes them, and its rows have a cell for each added column. -/
def amended (t : Table) (d : TableDiff) : Table :=
  { t with
    columns := d.applied Kind.name t.columns
    defaults := t.defaults.extend (d.add.filterMap fun c => c.default.map fun v => (c.name, v))
    rows := t.rows.map fun row => row.extend (d.add.map fun c => (c.name, c.default.getD .null)) }

theorem foldl_addColumn {added : List ColumnDefinition} (hnames : (added.map ColumnDefinition.name).Nodup)
    (hnew : ∀ c ∈ added, c.name ∉ t.columnNames) :
    added.foldl addColumn t =
      { t with
        columns := t.columns ++ added.map LiveColumn.ofDefinition
        defaults := t.defaults.extend (added.filterMap fun c => c.default.map fun v => (c.name, v))
        rows := t.rows.map fun row => row.extend (added.map fun c => (c.name, c.default.getD .null)) } := by
  induction added generalizing t with
  | nil => simp
  | cons c added ih =>
    rw [List.map_cons, List.nodup_cons] at hnames
    rw [List.forall_mem_cons] at hnew
    have hfirst : t.hasColumn c.name = false := by
      rw [Bool.eq_false_iff, ne_eq, hasColumn_iff]
      exact hnew.1
    have hrest : ∀ d ∈ added, d.name ∉ (t.addColumn c).columnNames := by
      intro d hd hin
      rw [addColumn, hfirst, if_neg Bool.false_ne_true, columnNames, List.map_append, List.mem_append,
        List.map_singleton, List.mem_singleton] at hin
      rcases hin with hin | hin
      · exact hnew.2 d hd hin
      · exact hnames.1 (List.mem_map.2 ⟨d, hd, hin⟩)
    rw [List.foldl_cons, ih hnames.2 hrest, addColumn, hfirst, if_neg Bool.false_ne_true]
    congr 1
    · rw [List.append_assoc]
      rfl
    · cases hdefault : c.default with
      | none => rw [List.filterMap_cons_none (by rw [hdefault]; rfl)]
      | some v =>
        rw [List.filterMap_cons_some (by rw [hdefault]; rfl)]
        rfl
    · rw [List.map_map]
      rfl

theorem foldl_changeColumn (changed : List ColumnDefinition) (t : Table) :
    changed.foldl changeColumn t =
      { t with columns := changed.foldl (fun live c => replaceColumn (.ofDefinition c) live) t.columns } := by
  induction changed generalizing t with
  | nil => rfl
  | cons c changed ih => exact ih (t.changeColumn c)

theorem replaceColumn_eq_map {c : LiveColumn} {live : List LiveColumn} (hlive : (live.map LiveColumn.name).Nodup) :
    replaceColumn c live = live.map fun l => if l.name = c.name then c else l := by
  induction live with
  | nil => rfl
  | cons l live ih =>
    rw [List.map_cons, List.nodup_cons] at hlive
    rw [replaceColumn, List.map_cons]
    by_cases hname : l.name = c.name
    · have hothers : live.map (fun l => if l.name = c.name then c else l) = live := by
        refine (List.map_congr_left fun l' hl' => if_neg fun he => hlive.1 ?_).trans (List.map_id live)
        exact List.mem_map.2 ⟨l', hl', he.trans hname.symm⟩
      rw [if_pos hname, if_pos hname, hothers]
    · rw [if_neg hname, if_neg hname, ih hlive.2]

theorem foldl_replaceColumn {d : TableDiff} {live : List LiveColumn}
    (hchange : (d.change.map ColumnDefinition.name).Nodup) (hlive : (live.map LiveColumn.name).Nodup) :
    d.change.foldl (fun live c => replaceColumn (.ofDefinition c) live) live = live.map (d.renewed Kind.name) := by
  obtain ⟨add, changed⟩ := d
  induction changed generalizing live with
  | nil => exact (List.map_id live).symm
  | cons c changed ih =>
    rw [List.map_cons, List.nodup_cons] at hchange
    rw [List.foldl_cons, ih (by rw [Sound.names_replaceColumn]; exact hlive) hchange.2, replaceColumn_eq_map hlive,
      List.map_map]
    refine List.map_congr_left fun l _ => ?_
    change TableDiff.renewed ⟨add, changed⟩ Kind.name (if l.name = c.name then .ofDefinition c else l) =
      TableDiff.renewed ⟨add, c :: changed⟩ Kind.name l
    by_cases hname : l.name = c.name
    · -- no later definition has the name of this one
      rw [if_pos hname, TableDiff.renewed_eq_self fun c' hc' he => hchange.1 (List.mem_map.2 ⟨c', hc', he⟩),
        TableDiff.renewed_of_mem (d := ⟨add, c :: changed⟩) (List.nodup_cons.2 hchange) List.mem_cons_self hname.symm]
      rfl
    · have hfind : ((c :: changed).find? fun c' => c'.name = l.name) = changed.find? fun c' => c'.name = l.name :=
        List.find?_cons_of_neg (by simpa using Ne.symm hname)
      rw [if_neg hname, TableDiff.renewed, TableDiff.renewed, hfind]

end Table

namespace Store

theorem described_run (ops : List Operation) : ∀ e ∈ (empty.run ops).tables, e.2.Described :=
  forall_tables_run (fun _ he => absurd he List.not_mem_nil) (fun d _ => Table.described_ofDefinition d)
    fun _ _ _ hmakes => hmakes.described

/-- Where tables are made with columns of different names, the names in every table differ. -/
theorem nodup_columnNames_run {ops : List Operation}
    (hcreate : ∀ d, .create d ∈ ops → (d.columns.map ColumnDefinition.name).Nodup) :
    ∀ e ∈ (empty.run ops).tables, e.2.columnNames.Nodup :=
  forall_tables_run (fun _ he => absurd he List.not_mem_nil)
    (fun d hd => Table.columnNames_ofDefinition d ▸ hcreate d hd) fun _ _ _ hmakes => hmakes.nodup_columnNames

end Store

theorem Model.columnNames_made (m : Model) : (Table.ofDefinition m.table).columnNames = m.columnNames :=
  (Table.columnNames_ofDefinition m.table).trans m.names_definitions

/-- What altering a table by the diff of a model makes of it. -/
theorem Model.Coherent.eq_of_alter_diff {m : Model} (hm : m.Coherent) {t t' : Table} {name : String}
    (hlive : t.columnNames.Nodup) (h : t.alter name (m.diff Kind.name t.columns) = .ok t') :
    t' = t.amended (m.diff Kind.name t.columns) := by
  obtain ⟨-, -, rfl⟩ := Table.eq_of_alter h
  have hnew : ∀ c ∈ (m.diff Kind.name t.columns).add, c.name ∉ t.columnNames := fun c hc => (mem_add.1 hc).2
  have hadd := hm.nodup_add Kind.name t.columns
  generalize hd : m.diff Kind.name t.columns = d at hnew hadd ⊢
  have hnames : ((t.columns ++ d.add.map LiveColumn.ofDefinition).map LiveColumn.name).Nodup := by
    rw [List.map_append, List.map_map]
    refine hlive.append hadd fun name hname hadded => ?_
    obtain ⟨c, hc, rfl⟩ := List.mem_map.1 hadded
    exact hnew c hc hname
  have hadded : ∀ c ∈ d.add, d.renewed Kind.name (.ofDefinition c) = .ofDefinition c := by
    refine fun c hc => TableDiff.renewed_eq_self fun c' hc' he => hnew c hc ?_
    obtain ⟨-, l, hl, hname, -⟩ := (mem_change hlive).1 (hd ▸ hc')
    exact List.mem_map.2 ⟨l, hl, hname.trans he⟩
  have hcolumns : d.change.foldl (fun live c => Table.replaceColumn (.ofDefinition c) live)
      (t.columns ++ d.add.map LiveColumn.ofDefinition) = d.applied Kind.name t.columns := by
    rw [Table.foldl_replaceColumn (hd ▸ hm.nodup_change Kind.name t.columns) hnames, List.map_append, List.map_map]
    exact congrArg (t.columns.map (d.renewed Kind.name) ++ ·) (List.map_congr_left hadded)
  rw [Table.foldl_addColumn hadd hnew, Table.foldl_changeColumn, hcolumns]
  rfl

end DataModel

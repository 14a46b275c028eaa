import DataModel.Proofs.Reading

/-! Every row of a table has a cell for each of its columns and for nothing else, and the primary key of a table
is one of its columns. A new table is like this, and every operation of the store keeps it so. -/

namespace DataModel

namespace Table

/-- Whether the rows of a table and its primary key fit its columns. -/
structure Sound (t : Table) : Prop where
  rows : ∀ row ∈ t.rows, ∀ c, c ∈ row.keys ↔ t.hasColumn c = true
  primary : ∀ key, t.primaryKey = some key → t.hasColumn key = true

theorem hasColumn_iff {t : Table} {c : String} : t.hasColumn c = true ↔ c ∈ t.columns.map LiveColumn.name := by
  simp [hasColumn, List.mem_map]

theorem sound_ofDefinition (d : TableDefinition) : (ofDefinition d).Sound where
  rows row hrow := by simp [ofDefinition] at hrow
  primary key hkey := by
    obtain ⟨c, hc, rfl⟩ := Option.map_eq_some_iff.1 hkey
    rw [hasColumn_iff, ofDefinition, List.map_map]
    exact List.mem_map.2 ⟨c, List.mem_of_find?_eq_some hc, rfl⟩

section

variable {t t' : Table} {name : String}

/-- What is built of values for columns of the table: a row that has its key, and no null where there must be none. -/
theorem build_eq_ok_iff {values row : Record} {next next' : Int} :
    t.build name values next = .ok (row, next') ↔
      t.checkColumns name values.keys = .ok () ∧ checkNulls name row t.columns = .ok () ∧
        t.withKey (t.complete values) next = (row, next') := by
  rw [build, check_bind_eq_ok_iff]
  refine and_congr_right fun _ => ?_
  obtain ⟨row', next''⟩ := t.withKey (t.complete values) next
  rw [check_bind_eq_ok_iff, ok_eq_ok_iff]
  constructor
  · rintro ⟨hnulls, hsame⟩
    obtain ⟨rfl, rfl⟩ := Prod.mk.inj hsame
    exact ⟨hnulls, rfl⟩
  · rintro ⟨hnulls, hsame⟩
    obtain ⟨rfl, rfl⟩ := Prod.mk.inj hsame
    exact ⟨hnulls, rfl⟩

/-- A complete row has the given cell under a column, or else its default, or else null. -/
theorem complete_eq (t : Table) (values : Record) :
    t.complete values = Assoc.ofPairs ((t.columns.map LiveColumn.name).map fun name =>
      (name, (values.get? name).getD ((t.defaults.get? name).getD .null))) := by
  rw [complete, List.map_map]
  refine congrArg Assoc.ofPairs (List.map_congr_left fun l _ => ?_)
  rw [Function.comp_apply]
  cases values.get? l.name <;> rfl

theorem get?_complete (values : Record) {c : String} (hc : t.hasColumn c = true) :
    (t.complete values).get? c = some ((values.get? c).getD ((t.defaults.get? c).getD .null)) := by
  rw [complete_eq, Assoc.get?_ofPairs_map, if_pos (hasColumn_iff.1 hc)]

/-- A cell stays unless a key is generated in it. -/
theorem get?_withKey {row : Record} {next : Int} {c : String}
    (hc : ¬(t.primaryKey = some c ∧ t.autoIncrement = true ∧ row.isNullAt c = true)) :
    (t.withKey row next).1.get? c = row.get? c := by
  unfold withKey
  cases hkey : t.primaryKey with
  | none => rfl
  | some key =>
    dsimp only
    split
    next hnull =>
      rw [Bool.and_eq_true] at hnull
      have hne : key ≠ c := fun he => hc (he ▸ ⟨hkey, hnull⟩)
      exact Assoc.get?_insert_of_ne hne
    next => split <;> rfl

/-- A key is null when it was and none is generated. -/
theorem isNullAt_withKey {row : Record} {next : Int} {key : String} (hkey : t.primaryKey = some key) :
    (t.withKey row next).1.isNullAt key = (row.isNullAt key && !t.autoIncrement) := by
  rw [withKey, hkey]
  dsimp only
  split
  next hnull =>
    rw [Bool.and_eq_true] at hnull
    rw [Record.isNullAt, Assoc.get?_insert_self, hnull.1, Bool.not_true, Bool.and_false]
    rfl
  next hnot =>
    have hsame : row.isNullAt key = (row.isNullAt key && !t.autoIncrement) := by
      rw [Bool.not_eq_true, Bool.and_eq_false_iff] at hnot
      rcases hnot with hnot | hnot <;> simp [hnot]
    split <;> exact hsame

/-- A batch is built row by row. -/
theorem buildAll_cons_eq_ok_iff {columns : List String} {values : List Value} {rows : List (List Value)}
    {next last : Int} {built : List Record} :
    t.buildAll name columns next (values :: rows) = .ok (built, last) ↔
      values.length = columns.length ∧ ∃ row middle rest,
        t.build name (Assoc.ofPairs (columns.zip values)) next = .ok (row, middle) ∧
          t.buildAll name columns middle rows = .ok (rest, last) ∧ built = row :: rest := by
  rw [buildAll]
  by_cases hlength : values.length = columns.length
  · rw [if_neg (not_not_intro hlength), bind_eq_ok_iff]
    constructor
    · rintro ⟨⟨row, middle⟩, hrow, h⟩
      obtain ⟨⟨rest, last'⟩, hrest, h⟩ := bind_eq_ok_iff.1 h
      obtain ⟨rfl, rfl⟩ := Prod.mk.inj (ok_eq_ok_iff.1 h)
      exact ⟨hlength, row, middle, rest, hrow, hrest, rfl⟩
    · rintro ⟨-, row, middle, rest, hrow, hrest, rfl⟩
      exact ⟨_, hrow, bind_eq_ok_iff.2 ⟨_, hrest, rfl⟩⟩
  · rw [if_pos hlength]
    exact ⟨nofun, fun h => absurd h.1 hlength⟩

/-- Every row of a batch that is built is built of the values of one row. -/
theorem exists_of_mem_buildAll {columns : List String} {rows : List (List Value)} {next last : Int}
    {built : List Record} (h : t.buildAll name columns next rows = .ok (built, last)) {row : Record}
    (hrow : row ∈ built) :
    ∃ values first middle, t.build name (Assoc.ofPairs (columns.zip values)) first = .ok (row, middle) := by
  induction rows generalizing next built with
  | nil =>
    obtain ⟨rfl, -⟩ := Prod.mk.inj (ok_eq_ok_iff.1 h)
    cases hrow
  | cons values rows ih =>
    obtain ⟨-, head, middle, rest, hhead, hrest, rfl⟩ := buildAll_cons_eq_ok_iff.1 h
    rcases List.mem_cons.1 hrow with rfl | hrow
    · exact ⟨values, next, middle, hhead⟩
    · exact ih hrest hrow

theorem length_of_buildAll {columns : List String} {rows : List (List Value)} {next last : Int} {built : List Record}
    (h : t.buildAll name columns next rows = .ok (built, last)) : built.length = rows.length := by
  induction rows generalizing next built with
  | nil =>
    obtain ⟨rfl, -⟩ := Prod.mk.inj (ok_eq_ok_iff.1 h)
    rfl
  | cons values rows ih =>
    obtain ⟨-, head, middle, rest, -, hrest, rfl⟩ := buildAll_cons_eq_ok_iff.1 h
    exact congrArg (· + 1) (ih hrest)

/-- What an insertion makes of a table. -/
theorem exists_of_insert {values : Record} {id : Value} (h : t.insert name values = .ok (id, t')) :
    ∃ row next, t.build name values t.nextId = .ok (row, next) ∧ t.checkPrimaryKeys name [row] = .ok () ∧
      (∀ key, t.primaryKey = some key → id = row.cell key) ∧
      t' = { t with nextId := next, rows := t.rows ++ [row] } := by
  obtain ⟨⟨row, next⟩, hrow, h⟩ := bind_eq_ok_iff.1 h
  obtain ⟨hkeys, h⟩ := check_bind_eq_ok_iff.1 h
  obtain ⟨rfl, rfl⟩ := Prod.mk.inj (ok_eq_ok_iff.1 h)
  exact ⟨row, next, hrow, hkeys, fun key hkey => by rw [hkey], rfl⟩

theorem exists_of_insertAll {columns : List String} {rows : List (List Value)} {n : Nat}
    (h : t.insertAll name columns rows = .ok (n, t')) :
    ∃ built next, t.buildAll name columns t.nextId rows = .ok (built, next) ∧
      t.checkPrimaryKeys name built = .ok () ∧ n = built.length ∧
      t' = { t with nextId := next, rows := t.rows ++ built } := by
  obtain ⟨⟨built, next⟩, hbuilt, h⟩ := bind_eq_ok_iff.1 h
  obtain ⟨hkeys, h⟩ := check_bind_eq_ok_iff.1 h
  obtain ⟨rfl, rfl⟩ := Prod.mk.inj (ok_eq_ok_iff.1 h)
  exact ⟨built, next, hbuilt, hkeys, rfl, rfl⟩

theorem count_eq_ok_iff {filter : List Where} {n : Nat} : t.count name filter = .ok n ↔
    (∀ c ∈ columnsOfAll filter, t.hasColumn c = true) ∧ n = (t.matching filter).length := by
  rw [count, check_bind_eq_ok_iff, checkFilter, checkColumns_eq_ok_iff, ok_eq_ok_iff]

theorem update_eq_ok_iff {filter : List Where} {values : Record} {n : Nat} :
    t.update name filter values = .ok (n, t') ↔
      (∀ c ∈ columnsOfAll filter, t.hasColumn c = true) ∧ (∀ c ∈ values.keys, t.hasColumn c = true) ∧
        n = (t.matching filter).length ∧
        t' = { t with rows := t.rows.map fun r => if r.passes filter then r.extend values else r } := by
  rw [update, check_bind_eq_ok_iff, check_bind_eq_ok_iff, checkFilter, checkColumns_eq_ok_iff, checkColumns_eq_ok_iff,
    ok_eq_ok_iff, Prod.mk.injEq]

theorem delete_eq_ok_iff {filter : List Where} {n : Nat} : t.delete name filter = .ok (n, t') ↔
    (∀ c ∈ columnsOfAll filter, t.hasColumn c = true) ∧ n = (t.matching filter).length ∧
      t' = { t with rows := t.rows.filter fun r => !r.passes filter } := by
  rw [delete, check_bind_eq_ok_iff, checkFilter, checkColumns_eq_ok_iff, ok_eq_ok_iff, Prod.mk.injEq]

theorem eq_of_update {filter : List Where} {values : Record} {n : Nat}
    (h : t.update name filter values = .ok (n, t')) :
    (∀ c ∈ values.keys, t.hasColumn c = true) ∧
      t' = { t with rows := t.rows.map fun r => if r.passes filter then r.extend values else r } := by
  obtain ⟨-, hcolumns, -, hrows⟩ := update_eq_ok_iff.1 h
  exact ⟨hcolumns, hrows⟩

theorem eq_of_delete {filter : List Where} {n : Nat} (h : t.delete name filter = .ok (n, t')) :
    t' = { t with rows := t.rows.filter fun r => !r.passes filter } :=
  (delete_eq_ok_iff.1 h).2.2

theorem eq_of_alter {d : TableDiff} (h : t.alter name d = .ok t') :
    (∀ c ∈ d.change, t.checkChange name c = .ok ()) ∧ (∀ c ∈ d.add, t.checkAddition name c = .ok ()) ∧
      t' = d.change.foldl changeColumn (d.add.foldl addColumn t) := by
  obtain ⟨hchange, h⟩ := check_bind_eq_ok_iff.1 h
  obtain ⟨hadd, h⟩ := check_bind_eq_ok_iff.1 h
  exact ⟨forM_eq_ok_iff.1 hchange, forM_eq_ok_iff.1 hadd, ok_eq_ok_iff.1 h⟩

/-- What adding a column and changing one keep, altering a table keeps. -/
theorem alter_rec {motive : Table → Prop} {d : TableDiff} (h : t.alter name d = .ok t') (ht : motive t)
    (hadd : ∀ u, motive u → ∀ c, motive (u.addColumn c)) (hchange : ∀ u, motive u → ∀ c, motive (u.changeColumn c)) :
    motive t' := by
  obtain ⟨-, -, rfl⟩ := eq_of_alter h
  have hadded : motive (d.add.foldl addColumn t) := List.foldlRecOn d.add addColumn ht fun u hu c _ => hadd u hu c
  exact List.foldlRecOn d.change changeColumn hadded fun u hu c _ => hchange u hu c

end

namespace Sound

variable {t : Table}

theorem mem_keys_complete {values : Record} {c : String} :
    c ∈ (t.complete values).keys ↔ t.hasColumn c = true := by
  rw [complete, hasColumn_iff, Assoc.ofPairs, Assoc.mem_keys_extend]
  simp [Assoc.keys]

theorem mem_keys_withKey (h : t.Sound) {row : Record} {nextId : Int} {c : String}
    (hrow : ∀ c, c ∈ row.keys ↔ t.hasColumn c = true) :
    c ∈ (t.withKey row nextId).1.keys ↔ t.hasColumn c = true := by
  unfold withKey
  cases hp : t.primaryKey with
  | none => exact hrow c
  | some key =>
    simp only []
    split
    · rw [Assoc.mem_keys_insert, hrow c]
      refine ⟨?_, Or.inr⟩
      rintro (rfl | hc)
      · exact h.primary _ hp
      · exact hc
    · split <;> exact hrow c

theorem mem_keys_build (h : t.Sound) {name : String} {values row : Record} {nextId nextId' : Int}
    (hb : t.build name values nextId = .ok (row, nextId')) (c : String) :
    c ∈ row.keys ↔ t.hasColumn c = true := by
  obtain ⟨-, -, hkeyed⟩ := build_eq_ok_iff.1 hb
  have hrow : (t.withKey (t.complete values) nextId).1 = row := congrArg Prod.fst hkeyed
  rw [← hrow]
  exact h.mem_keys_withKey fun c => mem_keys_complete

theorem mem_keys_buildAll (h : t.Sound) {name : String} {columns : List String} {rows : List (List Value)}
    {nextId nextId' : Int} {built : List Record}
    (hb : t.buildAll name columns nextId rows = .ok (built, nextId')) :
    ∀ row ∈ built, ∀ c, c ∈ row.keys ↔ t.hasColumn c = true := by
  intro row hrow
  obtain ⟨values, first, middle, hbuilt⟩ := exists_of_mem_buildAll hb hrow
  exact h.mem_keys_build hbuilt

theorem insert (h : t.Sound) {name : String} {values : Record} {id : Value} {t' : Table}
    (hi : t.insert name values = .ok (id, t')) : t'.Sound := by
  obtain ⟨row, next, hrow, -, -, rfl⟩ := exists_of_insert hi
  refine ⟨fun r hr => ?_, h.primary⟩
  rcases List.mem_append.1 hr with hr | hr
  · exact h.rows r hr
  · rw [List.mem_singleton.1 hr]
    exact h.mem_keys_build hrow

theorem insertAll (h : t.Sound) {name : String} {columns : List String} {rows : List (List Value)} {n : Nat}
    {t' : Table} (hi : t.insertAll name columns rows = .ok (n, t')) : t'.Sound := by
  obtain ⟨built, next, hbuilt, -, -, rfl⟩ := exists_of_insertAll hi
  refine ⟨fun r hr => ?_, h.primary⟩
  rcases List.mem_append.1 hr with hr | hr
  · exact h.rows r hr
  · exact h.mem_keys_buildAll hbuilt r hr

theorem update (h : t.Sound) {name : String} {filter : List Where} {values : Record} {n : Nat} {t' : Table}
    (hu : t.update name filter values = .ok (n, t')) : t'.Sound := by
  obtain ⟨hcolumns, rfl⟩ := eq_of_update hu
  refine ⟨fun r hr c => ?_, h.primary⟩
  obtain ⟨row, hrow, rfl⟩ := List.mem_map.1 hr
  split
  · rw [Assoc.mem_keys_extend, h.rows row hrow c]
    exact ⟨fun hc => hc.elim id (hcolumns c), Or.inl⟩
  · exact h.rows row hrow c

theorem delete (h : t.Sound) {name : String} {filter : List Where} {n : Nat} {t' : Table}
    (hd : t.delete name filter = .ok (n, t')) : t'.Sound := by
  obtain rfl := eq_of_delete hd
  exact ⟨fun r hr => h.rows r (List.mem_filter.1 hr).1, h.primary⟩

theorem addColumn (h : t.Sound) (c : ColumnDefinition) : (t.addColumn c).Sound := by
  unfold Table.addColumn
  split
  · exact h
  have hcol : ∀ d, ({ t with columns := t.columns ++ [.ofDefinition c] } : Table).hasColumn d = true ↔
      d = c.name ∨ t.hasColumn d = true := by
    intro d
    rw [hasColumn_iff, hasColumn_iff, List.map_append, List.mem_append, or_comm, List.map_singleton,
      List.mem_singleton]
    rfl
  refine ⟨fun r hr d => ?_, fun key hkey => (hcol key).2 (Or.inr (h.primary key hkey))⟩
  obtain ⟨row, hrow, rfl⟩ := List.mem_map.1 hr
  rw [Assoc.mem_keys_insert, h.rows row hrow d]
  exact (hcol d).symm

theorem names_replaceColumn (c : ColumnDefinition) (columns : List LiveColumn) :
    (replaceColumn (.ofDefinition c) columns).map LiveColumn.name = columns.map LiveColumn.name := by
  induction columns with
  | nil => rfl
  | cons l columns ih =>
    unfold replaceColumn
    split
    next hl => rw [List.map_cons, List.map_cons, hl]
    next => rw [List.map_cons, List.map_cons, ih]

theorem changeColumn (h : t.Sound) (c : ColumnDefinition) : (t.changeColumn c).Sound := by
  have hcol : ∀ d, (t.changeColumn c).hasColumn d = true ↔ t.hasColumn d = true := by
    intro d
    rw [hasColumn_iff, hasColumn_iff, Table.changeColumn, names_replaceColumn]
  exact ⟨fun r hr d => (h.rows r hr d).trans (hcol d).symm, fun key hkey => (hcol key).2 (h.primary key hkey)⟩

theorem alter (h : t.Sound) {name : String} {d : TableDiff} {t' : Table} (ha : t.alter name d = .ok t') :
    t'.Sound :=
  alter_rec ha h (fun _ hu c => hu.addColumn c) fun _ hu c => hu.changeColumn c

end Sound

end Table

namespace Store

/-- Whether every table is sound. -/
def Sound (s : Store) : Prop :=
  ∀ e ∈ s.tables, e.2.Sound

theorem sound_empty : empty.Sound := by
  simp [Sound, empty]

/-- A store that a change of one table has made has the changed table in the place of the old one. -/
theorem exists_put {α : Type} {s s' : Store} {name : String} {f : Table → Except StoreError (α × Table)} {a : α}
    (h : ((s.table? name).bind fun t => (f t).bind fun p => .ok (p.1, s.put name p.2)) = .ok (a, s')) :
    ∃ t t', s.tables.get? name = some t ∧ f t = .ok (a, t') ∧ s' = s.put name t' := by
  obtain ⟨t, ht, h⟩ := bind_eq_ok_iff.1 h
  obtain ⟨⟨_, t'⟩, ht', h⟩ := bind_eq_ok_iff.1 h
  obtain ⟨rfl, rfl⟩ := Prod.mk.inj (ok_eq_ok_iff.1 h)
  exact ⟨t, t', Library.table?_eq_ok_iff.1 ht, ht', rfl⟩

/-- A change of a table that is there can be made in the store. -/
theorem bind_put {α : Type} {s : Store} {name : String} {f : Table → Except StoreError (α × Table)} {a : α}
    {t t' : Table} (ht : s.tables.get? name = some t) (hf : f t = .ok (a, t')) :
    ((s.table? name).bind fun t => (f t).bind fun p => .ok (p.1, s.put name p.2)) = .ok (a, s.put name t') :=
  bind_eq_ok_iff.2 ⟨t, Library.table?_eq_ok_iff.2 ht, bind_eq_ok_iff.2 ⟨_, hf, rfl⟩⟩

namespace Sound

variable {s s' : Store} {name : String}

theorem table (h : s.Sound) {t : Table} (ht : s.tables.get? name = some t) : t.Sound :=
  h (name, t) (Assoc.mem_of_get? ht)

theorem put (h : s.Sound) {t : Table} (ht : t.Sound) : (s.put name t).Sound := by
  intro e he
  rcases Assoc.mem_insert he with rfl | he
  · exact ht
  · exact h e he

theorem create (h : s.Sound) {d : TableDefinition} (hc : s.create d = .ok s') : s'.Sound := by
  unfold Store.create at hc
  split at hc
  · cases hc
  · rw [ok_eq_ok_iff.1 hc]
    exact h.put (Table.sound_ofDefinition d)

theorem drop (h : s.Sound) : (s.drop name).Sound :=
  fun e he => h e (Assoc.mem_of_mem_erase he)

theorem alter (h : s.Sound) {d : TableDiff} (ha : s.alter name d = .ok s') : s'.Sound := by
  obtain ⟨t, ht, ha⟩ := bind_eq_ok_iff.1 ha
  obtain ⟨t', ht', ha⟩ := bind_eq_ok_iff.1 ha
  rw [ok_eq_ok_iff.1 ha]
  exact h.put ((h.table (Library.table?_eq_ok_iff.1 ht)).alter ht')

theorem insert (h : s.Sound) {values : Record} {id : Value} (hi : s.insert name values = .ok (id, s')) :
    s'.Sound := by
  obtain ⟨t, t', ht, ht', rfl⟩ := exists_put hi
  exact h.put ((h.table ht).insert ht')

theorem insertAll (h : s.Sound) {columns : List String} {rows : List (List Value)} {n : Nat}
    (hi : s.insertAll name columns rows = .ok (n, s')) : s'.Sound := by
  obtain ⟨t, t', ht, ht', rfl⟩ := exists_put hi
  exact h.put ((h.table ht).insertAll ht')

theorem update (h : s.Sound) {filter : List Where} {values : Record} {n : Nat}
    (hu : s.update name filter values = .ok (n, s')) : s'.Sound := by
  obtain ⟨t, t', ht, ht', rfl⟩ := exists_put hu
  exact h.put ((h.table ht).update ht')

theorem delete (h : s.Sound) {filter : List Where} {n : Nat} (hd : s.delete name filter = .ok (n, s')) :
    s'.Sound := by
  obtain ⟨t, t', ht, ht', rfl⟩ := exists_put hd
  exact h.put ((h.table ht).delete ht')

end Sound

/-- An operation that may change the store. -/
inductive Operation where
  | create (d : TableDefinition)
  | alter (name : String) (d : TableDiff)
  | drop (name : String)
  | insert (name : String) (values : Record)
  | insertAll (name : String) (columns : List String) (rows : List (List Value))
  | update (name : String) (filter : List Where) (values : Record)
  | delete (name : String) (filter : List Where)

/-- The store that an operation makes of a store. -/
def perform (s : Store) : Operation → Except StoreError Store
  | .create d => s.create d
  | .alter name d => s.alter name d
  | .drop name => .ok (s.drop name)
  | .insert name values => do .ok (← s.insert name values).2
  | .insertAll name columns rows => do .ok (← s.insertAll name columns rows).2
  | .update name filter values => do .ok (← s.update name filter values).2
  | .delete name filter => do .ok (← s.delete name filter).2

/-- The store after an operation: as it was, when the operation failed. -/
def step (s : Store) (op : Operation) : Store :=
  match s.perform op with
  | .ok s' => s'
  | .error _ => s

/-- The store after several operations. -/
def run (s : Store) (ops : List Operation) : Store :=
  ops.foldl step s

namespace Sound

variable {s s' : Store}

theorem perform {op : Operation} (h : s.Sound) (hp : s.perform op = .ok s') : s'.Sound := by
  cases op with
  | create d => exact h.create hp
  | alter name d => exact h.alter hp
  | drop name =>
    rw [ok_eq_ok_iff.1 hp]
    exact h.drop
  | insert name values =>
    obtain ⟨⟨id, _⟩, hi, hp⟩ := bind_eq_ok_iff.1 hp
    rw [ok_eq_ok_iff.1 hp]
    exact h.insert hi
  | insertAll name columns rows =>
    obtain ⟨⟨n, _⟩, hi, hp⟩ := bind_eq_ok_iff.1 hp
    rw [ok_eq_ok_iff.1 hp]
    exact h.insertAll hi
  | update name filter values =>
    obtain ⟨⟨n, _⟩, hu, hp⟩ := bind_eq_ok_iff.1 hp
    rw [ok_eq_ok_iff.1 hp]
    exact h.update hu
  | delete name filter =>
    obtain ⟨⟨n, _⟩, hd, hp⟩ := bind_eq_ok_iff.1 hp
    rw [ok_eq_ok_iff.1 hp]
    exact h.delete hd

/-- An operation keeps the store sound, also one that fails. -/
theorem step (h : s.Sound) (op : Operation) : (s.step op).Sound := by
  unfold Store.step
  split
  next s' hp => exact h.perform hp
  next => exact h

theorem run (h : s.Sound) (ops : List Operation) : (s.run ops).Sound := by
  induction ops generalizing s with
  | nil => exact h
  | cons op ops ih => exact ih (h.step op)

end Sound

/-- Every store that operations make from nothing is sound. -/
theorem sound_run (ops : List Operation) : (empty.run ops).Sound :=
  sound_empty.run ops

end Store

end DataModel

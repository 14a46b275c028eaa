import DataModel.Proofs.Storage

/-!
# What tables declare of their rows

A column that is not nullable has no null in any row, and no two rows have the same primary key. Inserting rows
and changing columns keeps this, since both look at the rows first. Changing rows does not look: it keeps the
constraints when it writes no null where there must be none, and no primary key. A column that is added must not
have null as its default.
-/

namespace DataModel

namespace Table

/-- Whether no row has a null under a name. -/
def NeverNull (t : Table) (name : String) : Prop :=
  ∀ row ∈ t.rows, row.isNullAt name = false

/-- Whether the rows of a table are as its columns and its primary key declare. -/
structure Constrained (t : Table) : Prop where
  nulls : ∀ c ∈ t.columns, c.nullable = false → t.NeverNull c.name
  keys : ∀ key, t.primaryKey = some key → (t.rows.filterMap (keyAt key)).Nodup

theorem constrained_ofDefinition (d : TableDefinition) : (ofDefinition d).Constrained where
  nulls _ _ _ _ hrow := absurd hrow List.not_mem_nil
  keys _ _ := List.nodup_nil

theorem checkNulls_eq_ok_iff {name : String} {row : Record} {columns : List LiveColumn} :
    checkNulls name row columns = .ok () ↔
      ∀ c ∈ columns, c.nullable = false → row.isNullAt c.name = false := by
  induction columns with
  | nil => simp [checkNulls]
  | cons c columns ih =>
    rw [checkNulls, List.forall_mem_cons, ← ih]
    cases c.nullable <;> cases row.isNullAt c.name <;> simp

/-- New rows are taken when their keys differ from each other and from those there already. -/
theorem checkKeys_eq_ok_iff {name column : String} {seen : List String} {rows : List Record} :
    checkKeys name column seen rows = .ok () ↔
      (rows.filterMap (keyAt column)).Nodup ∧ ∀ k ∈ rows.filterMap (keyAt column), k ∉ seen := by
  induction rows generalizing seen with
  | nil => simp [checkKeys]
  | cons row rows ih =>
    rw [checkKeys]
    cases hkey : keyAt column row with
    | none =>
      rw [List.filterMap_cons_none hkey]
      exact ih
    | some k =>
      rw [List.filterMap_cons_some hkey, List.nodup_cons, List.forall_mem_cons]
      by_cases hseen : k ∈ seen
      · simp [hseen]
      · simp only [List.contains_eq_mem, hseen, decide_false, Bool.false_eq_true, if_false, not_false_eq_true,
          true_and]
        rw [ih]
        simp only [List.mem_cons, not_or]
        constructor
        · rintro ⟨hnodup, hnew⟩
          exact ⟨⟨fun hk => (hnew k hk).1 rfl, hnodup⟩, fun k' hk' => (hnew k' hk').2⟩
        · rintro ⟨⟨hk, hnodup⟩, hnew⟩
          exact ⟨hnodup, fun k' hk' => ⟨fun he => hk (he ▸ hk'), hnew k' hk'⟩⟩

theorem nodup_of_checkKeys {name column : String} {seen : List String} {rows : List Record}
    (h : checkKeys name column seen rows = .ok ()) (hseen : seen.Nodup) :
    (seen ++ rows.filterMap (keyAt column)).Nodup := by
  obtain ⟨hnodup, hnew⟩ := checkKeys_eq_ok_iff.1 h
  exact List.nodup_append.2 ⟨hseen, hnodup, fun a ha b hb he => hnew b hb (he ▸ ha)⟩

namespace Constrained

variable {t : Table}

/-- Rows that pass the checks may be added. -/
theorem append (h : t.Constrained) {name : String} {rows : List Record} (nextId : Int)
    (hnulls : ∀ row ∈ rows, checkNulls name row t.columns = .ok ())
    (hkeys : t.checkPrimaryKeys name rows = .ok ()) :
    Constrained { t with nextId, rows := t.rows ++ rows } where
  nulls c hc hnull := by
    refine List.forall_mem_append.2 ⟨h.nulls c hc hnull, fun row hrow => ?_⟩
    exact checkNulls_eq_ok_iff.1 (hnulls row hrow) c hc hnull
  keys key hkey := by
    have hprimary : t.primaryKey = some key := hkey
    simp only [checkPrimaryKeys, hprimary] at hkeys
    rw [List.filterMap_append]
    exact nodup_of_checkKeys hkeys (h.keys key hprimary)

theorem checkNulls_of_build {name : String} {values row : Record} {nextId nextId' : Int}
    (hb : t.build name values nextId = .ok (row, nextId')) : checkNulls name row t.columns = .ok () :=
  (build_eq_ok_iff.1 hb).2.1

theorem checkNulls_of_buildAll {name : String} {columns : List String} {rows : List (List Value)}
    {nextId nextId' : Int} {built : List Record}
    (hb : t.buildAll name columns nextId rows = .ok (built, nextId')) :
    ∀ row ∈ built, checkNulls name row t.columns = .ok () := by
  intro row hrow
  obtain ⟨values, first, middle, hbuilt⟩ := exists_of_mem_buildAll hb hrow
  exact checkNulls_of_build hbuilt

theorem insert (h : t.Constrained) {name : String} {values : Record} {id : Value} {t' : Table}
    (hi : t.insert name values = .ok (id, t')) : t'.Constrained := by
  obtain ⟨row, next, hrow, hkeys, -, rfl⟩ := exists_of_insert hi
  refine h.append next (fun r hr => ?_) hkeys
  rw [List.mem_singleton.1 hr]
  exact checkNulls_of_build hrow

theorem insertAll (h : t.Constrained) {name : String} {columns : List String} {rows : List (List Value)} {n : Nat}
    {t' : Table} (hi : t.insertAll name columns rows = .ok (n, t')) : t'.Constrained := by
  obtain ⟨built, next, hbuilt, hkeys, -, rfl⟩ := exists_of_insertAll hi
  exact h.append next (checkNulls_of_buildAll hbuilt) hkeys

theorem delete (h : t.Constrained) {name : String} {filter : List Where} {n : Nat} {t' : Table}
    (hd : t.delete name filter = .ok (n, t')) : t'.Constrained := by
  obtain rfl := eq_of_delete hd
  refine ⟨fun c hc hnull row hrow => h.nulls c hc hnull row (List.mem_filter.1 hrow).1, fun key hkey => ?_⟩
  exact (List.filter_sublist.filterMap _).nodup (h.keys key hkey)

end Constrained

/-- Whether cells may be set without a look at the rows: none to null where no null may be, and no primary key. -/
def MayWrite (t : Table) (values : Record) : Prop :=
  (∀ c ∈ t.columns, c.nullable = false → ∀ e ∈ values, e.1 = c.name → e.2.isNull = false) ∧
  ∀ key, t.primaryKey = some key → key ∉ values.keys

theorem isNullAt_extend {row values : Record} {name : String} (hrow : row.isNullAt name = false)
    (hvalues : ∀ e ∈ values, e.1 = name → e.2.isNull = false) :
    Record.isNullAt (row.extend values) name = false := by
  rw [Record.isNullAt, Assoc.get?_extend]
  cases hfind : values.reverse.find? fun e => e.1 = name with
  | none => exact hrow
  | some e =>
    have he : e ∈ values := List.mem_reverse.1 (List.mem_of_find?_eq_some hfind)
    have hname : e.1 = name := by simpa using List.find?_some hfind
    exact hvalues e he hname

namespace Constrained

variable {t : Table}

theorem update (h : t.Constrained) {name : String} {filter : List Where} {values : Record} {n : Nat} {t' : Table}
    (hmay : t.MayWrite values) (hu : t.update name filter values = .ok (n, t')) : t'.Constrained := by
  obtain ⟨-, rfl⟩ := eq_of_update hu
  refine ⟨fun c hc hnull row hrow => ?_, fun key hkey => ?_⟩
  · obtain ⟨old, hold, rfl⟩ := List.mem_map.1 hrow
    have hcell := h.nulls c hc hnull old hold
    split
    · exact isNullAt_extend hcell (hmay.1 c hc hnull)
    · exact hcell
  · -- no row gets another key
    have hsame : ∀ row : Record, keyAt key (if row.passes filter then row.extend values else row) = keyAt key row := by
      intro row
      split
      · rw [keyAt, keyAt, Assoc.get?_extend_of_not_mem (hmay.2 key hkey)]
      · rfl
    have hkeys : (t.rows.map fun r => if r.passes filter then r.extend values else r).filterMap (keyAt key) =
        t.rows.filterMap (keyAt key) := by
      rw [List.filterMap_map]
      exact List.filterMap_congr fun row _ => hsame row
    exact hkeys ▸ h.keys key hkey

end Constrained

/-- What adding columns keeps of a table: its constraints, the columns it has and the cells that are there. -/
structure Grows (t u : Table) : Prop where
  sound : u.Sound
  constrained : u.Constrained
  columns : ∀ name, t.hasColumn name = true → u.hasColumn name = true
  rows : t.rows = [] → u.rows = []
  neverNull : ∀ name, t.NeverNull name → u.NeverNull name

/-- Whether the rows of a table get a cell that is not null when a column is added that asks for it. -/
def Fills (t : Table) (c : ColumnDefinition) : Prop :=
  c.nullable = false → t.hasColumn c.name = false → t.rows = [] ∨ ∃ v, c.default = some v ∧ v.isNull = false

theorem isNullAt_insert {row : Record} {name other : String} {v : Value}
    (h : name = other → v.isNull = false) (hrow : name ≠ other → row.isNullAt other = false) :
    Record.isNullAt (row.insert name v) other = false := by
  rw [Record.isNullAt, Assoc.get?_insert]
  by_cases hname : name = other
  · rw [if_pos hname]
    exact h hname
  · rw [if_neg hname]
    exact hrow hname

/-- A cell that is not null stands under a column of its table. -/
theorem Sound.hasColumn_of_not_null {t : Table} (h : t.Sound) {row : Record} (hrow : row ∈ t.rows) {name : String}
    (hcell : row.isNullAt name = false) : t.hasColumn name = true := by
  refine (h.rows row hrow name).1 ?_
  by_contra hmem
  rw [Record.isNullAt, Assoc.get?_eq_none_iff.2 hmem] at hcell
  cases hcell

/-- A column under a new name leaves the cells of the others, and so the keys, alone. -/
theorem Grows.addColumn {t u : Table} (h : t.Grows u) {c : ColumnDefinition} (hfills : t.Fills c) :
    t.Grows (u.addColumn c) := by
  have hsound := h.sound.addColumn c
  unfold Table.addColumn at hsound ⊢
  split
  · exact h
  rename_i hnew
  rw [if_neg hnew] at hsound
  have hnew' : t.hasColumn c.name = false := by
    by_contra hold
    exact hnew (h.columns c.name (by simpa using hold))
  have hneverNull : ∀ name, u.NeverNull name → ∀ row ∈ u.rows,
      Record.isNullAt (row.insert c.name (c.default.getD .null)) name = false := by
    intro name hname row hrow
    refine isNullAt_insert (fun heq => ?_) fun _ => hname row hrow
    subst heq
    exact absurd (h.sound.hasColumn_of_not_null hrow (hname row hrow)) hnew
  refine ⟨hsound, ⟨fun l hl hnull => ?_, fun key hkey => ?_⟩, fun name hname => ?_, fun hrows => ?_, fun name hname => ?_⟩
  · refine List.forall_mem_map.2 ?_
    rcases List.mem_append.1 hl with hl | hl
    · exact hneverNull l.name (h.constrained.nulls l hl hnull)
    · intro row hrow
      rw [List.mem_singleton.1 hl] at hnull ⊢
      obtain hrows | ⟨v, hv, hvalue⟩ := hfills hnull hnew'
      · rw [h.rows hrows] at hrow
        exact absurd hrow List.not_mem_nil
      · refine isNullAt_insert (fun _ => ?_) fun hne => absurd rfl hne
        rw [hv]
        exact hvalue
  · have hprimary : u.primaryKey = some key := hkey
    have hne : c.name ≠ key := by
      rintro rfl
      exact hnew (h.sound.primary _ hprimary)
    have hkeys : (u.rows.map fun r => r.insert c.name (c.default.getD .null)).filterMap (keyAt key) =
        u.rows.filterMap (keyAt key) := by
      rw [List.filterMap_map]
      refine List.filterMap_congr fun row _ => ?_
      rw [Function.comp_apply, keyAt, keyAt, Assoc.get?_insert_of_ne hne]
    exact hkeys ▸ h.constrained.keys key hprimary
  · have hold := h.columns name hname
    rw [hasColumn_iff] at hold ⊢
    rw [List.map_append]
    exact List.mem_append_left _ hold
  · rw [h.rows hrows]
    rfl
  · exact List.forall_mem_map.2 (hneverNull name (h.neverNull name hname))

theorem mem_replaceColumn {c l : LiveColumn} {columns : List LiveColumn} (h : l ∈ replaceColumn c columns) :
    l = c ∨ l ∈ columns := by
  induction columns with
  | nil => exact absurd h List.not_mem_nil
  | cons d columns ih =>
    unfold replaceColumn at h
    split at h
    · exact (List.mem_cons.1 h).imp_right (List.mem_cons_of_mem d)
    · obtain rfl | h := List.mem_cons.1 h
      · exact Or.inr List.mem_cons_self
      · exact (ih h).imp_right (List.mem_cons_of_mem d)

/-- A column may be changed when no row has a null that it forbids. -/
theorem Constrained.changeColumn {t : Table} (h : t.Constrained) {c : ColumnDefinition}
    (hc : c.nullable = false → t.NeverNull c.name) : (t.changeColumn c).Constrained := by
  refine ⟨fun l hl hnull => ?_, h.keys⟩
  obtain rfl | hl := mem_replaceColumn hl
  · exact hc hnull
  · exact h.nulls l hl hnull

theorem neverNull_of_checkChange {t : Table} {name : String} {c : ColumnDefinition}
    (h : t.checkChange name c = .ok ()) (hnull : c.nullable = false) : t.NeverNull c.name := by
  unfold checkChange at h
  split at h
  · cases h
  · rename_i hnone
    intro row hrow
    by_contra hcell
    refine hnone ?_
    rw [hnull, Bool.not_false, Bool.true_and, List.any_eq_true]
    exact ⟨row, hrow, by simpa using hcell⟩

theorem fills_of_checkAddition {t : Table} {name : String} {c : ColumnDefinition}
    (h : t.checkAddition name c = .ok ()) (hdefault : c.nullable = false → ∀ v, c.default = some v → v.isNull = false) :
    t.Fills c := by
  intro hnull hnew
  cases hd : c.default with
  | some v => exact Or.inr ⟨v, rfl, hdefault hnull v hd⟩
  | none =>
    left
    by_contra hrows
    rw [checkAddition, if_pos (by simp [hnull, hd, hnew, hrows])] at h
    cases h

theorem Constrained.alter {t : Table} (hs : t.Sound) (h : t.Constrained) {name : String} {d : TableDiff} {t' : Table}
    (hdefaults : ∀ c ∈ d.add, c.nullable = false → ∀ v, c.default = some v → v.isNull = false)
    (ha : t.alter name d = .ok t') : t'.Constrained := by
  obtain ⟨hchange, hadd, rfl⟩ := eq_of_alter ha
  have hgrown : t.Grows (d.add.foldl Table.addColumn t) :=
    List.foldlRecOn (motive := t.Grows) d.add Table.addColumn
      ⟨hs, h, fun _ => id, id, fun _ => id⟩
      fun u hu c hc => hu.addColumn (fills_of_checkAddition (hadd c hc) (hdefaults c hc))
  -- the checks were made on the rows before the columns were added, and those have kept their cells
  have hchanged : (d.change.foldl Table.changeColumn (d.add.foldl Table.addColumn t)).Constrained ∧
      ∀ name, t.NeverNull name → (d.change.foldl Table.changeColumn (d.add.foldl Table.addColumn t)).NeverNull name := by
    refine List.foldlRecOn (motive := fun u => u.Constrained ∧ ∀ name, t.NeverNull name → u.NeverNull name)
      d.change Table.changeColumn ⟨hgrown.constrained, hgrown.neverNull⟩ ?_
    intro u hu c hc
    refine ⟨hu.1.changeColumn fun hnull => ?_, fun name hname => hu.2 name hname⟩
    exact hu.2 c.name (neverNull_of_checkChange (hchange c hc) hnull)
  exact hchanged.1

end Table

namespace Store

/-- The table that an operation is about. -/
def Operation.target : Operation → String
  | .create d => d.name
  | .alter name _ | .drop name | .insert name _ | .insertAll name _ _ | .update name _ _ | .delete name _ => name

end Store

namespace Table

/-- What an operation can make of a table. -/
inductive Makes (t : Table) : Store.Operation → Table → Prop where
  | alter {name : String} {d : TableDiff} {t' : Table} (h : t.alter name d = .ok t') : Makes t (.alter name d) t'
  | insert {name : String} {values : Record} {id : Value} {t' : Table} (h : t.insert name values = .ok (id, t')) :
      Makes t (.insert name values) t'
  | insertAll {name : String} {columns : List String} {rows : List (List Value)} {n : Nat} {t' : Table}
      (h : t.insertAll name columns rows = .ok (n, t')) : Makes t (.insertAll name columns rows) t'
  | update {name : String} {filter : List Where} {values : Record} {n : Nat} {t' : Table}
      (h : t.update name filter values = .ok (n, t')) : Makes t (.update name filter values) t'
  | delete {name : String} {filter : List Where} {n : Nat} {t' : Table}
      (h : t.delete name filter = .ok (n, t')) : Makes t (.delete name filter) t'

/-- The operations on a table that respect its constraints. -/
def Lawful (t : Table) : Store.Operation → Prop
  | .update _ _ values => t.MayWrite values
  | .alter _ d => ∀ c ∈ d.add, c.nullable = false → ∀ v, c.default = some v → v.isNull = false
  | .create _ | .drop _ | .insert _ _ | .insertAll _ _ _ | .delete _ _ => True

/-- A lawful operation keeps the constraints of a table. -/
theorem Makes.constrained {t t' : Table} {op : Store.Operation} (h : t.Makes op t') (hlawful : t.Lawful op)
    (hs : t.Sound) (hc : t.Constrained) : t'.Constrained := by
  cases h with
  | alter h => exact hc.alter hs hlawful h
  | insert h => exact hc.insert h
  | insertAll h => exact hc.insertAll h
  | update h => exact hc.update hlawful h
  | delete h => exact hc.delete h

end Table

namespace Store

variable {s s' : Store}

/-- What an operation can do to a store: put a new table, drop one, or put what it makes of the table that is there. -/
theorem perform_cases {op : Operation} (h : s.perform op = .ok s') :
    (∃ d, op = .create d ∧ s.hasTable d.name = false ∧ s' = s.put d.name (.ofDefinition d)) ∨
      (∃ name, op = .drop name ∧ s' = s.drop name) ∨
      ∃ t t', s.tables.get? op.target = some t ∧ t.Makes op t' ∧ s' = s.put op.target t' := by
  cases op with
  | create d =>
    have hc : s.create d = .ok s' := h
    unfold Store.create at hc
    split at hc
    · cases hc
    · rename_i hnew
      exact Or.inl ⟨d, rfl, by simpa using hnew, ok_eq_ok_iff.1 hc⟩
  | drop name => exact Or.inr (Or.inl ⟨name, rfl, ok_eq_ok_iff.1 h⟩)
  | alter name d =>
    obtain ⟨t, ht, h⟩ := bind_eq_ok_iff.1 h
    obtain ⟨t', ht', h⟩ := bind_eq_ok_iff.1 h
    exact Or.inr (Or.inr ⟨t, t', Library.table?_eq_ok_iff.1 ht, .alter ht', ok_eq_ok_iff.1 h⟩)
  | insert name values =>
    obtain ⟨⟨id, _⟩, hi, h⟩ := bind_eq_ok_iff.1 h
    obtain ⟨t, t', ht, ht', rfl⟩ := exists_put hi
    exact Or.inr (Or.inr ⟨t, t', ht, .insert ht', ok_eq_ok_iff.1 h⟩)
  | insertAll name columns rows =>
    obtain ⟨⟨n, _⟩, hi, h⟩ := bind_eq_ok_iff.1 h
    obtain ⟨t, t', ht, ht', rfl⟩ := exists_put hi
    exact Or.inr (Or.inr ⟨t, t', ht, .insertAll ht', ok_eq_ok_iff.1 h⟩)
  | update name filter values =>
    obtain ⟨⟨n, _⟩, hu, h⟩ := bind_eq_ok_iff.1 h
    obtain ⟨t, t', ht, ht', rfl⟩ := exists_put hu
    exact Or.inr (Or.inr ⟨t, t', ht, .update ht', ok_eq_ok_iff.1 h⟩)
  | delete name filter =>
    obtain ⟨⟨n, _⟩, hd, h⟩ := bind_eq_ok_iff.1 h
    obtain ⟨t, t', ht, ht', rfl⟩ := exists_put hd
    exact Or.inr (Or.inr ⟨t, t', ht, .delete ht', ok_eq_ok_iff.1 h⟩)

/-- Whether every table is as it declares. -/
def Constrained (s : Store) : Prop :=
  ∀ e ∈ s.tables, e.2.Constrained

/-- Whether an operation respects the constraints of the table it is about, if there is one. -/
def Lawful (s : Store) (op : Operation) : Prop :=
  ∀ t, s.tables.get? op.target = some t → t.Lawful op

/-- Whether operations are lawful each on the store it meets. -/
def LawfulRun : Store → List Operation → Prop
  | _, [] => True
  | s, op :: ops => s.Lawful op ∧ LawfulRun (s.step op) ops

namespace Constrained

theorem put (h : s.Constrained) {name : String} {t : Table} (ht : t.Constrained) : (s.put name t).Constrained := by
  intro e he
  rcases Assoc.mem_insert he with rfl | he
  · exact ht
  · exact h e he

/-- A lawful operation keeps every table as it declares, also one that fails. -/
theorem step (h : s.Constrained) (hs : s.Sound) {op : Operation} (hlawful : s.Lawful op) :
    (s.step op).Constrained := by
  unfold Store.step
  split
  next s' hp =>
    obtain ⟨d, -, -, rfl⟩ | ⟨name, -, rfl⟩ | ⟨t, t', ht, hmakes, rfl⟩ := perform_cases hp
    · exact h.put (Table.constrained_ofDefinition d)
    · exact fun e he => h e (Assoc.mem_of_mem_erase he)
    · exact h.put (hmakes.constrained (hlawful t ht) (hs.table ht) (h _ (Assoc.mem_of_get? ht)))
  next => exact h

theorem run (h : s.Constrained) (hs : s.Sound) {ops : List Operation} (hlawful : s.LawfulRun ops) :
    (s.run ops).Constrained := by
  induction ops generalizing s with
  | nil => exact h
  | cons op ops ih => exact ih (h.step hs hlawful.1) (hs.step op) hlawful.2

end Constrained

/-- In every store that lawful operations make from nothing, successful or failing, no row holds a null in a column
that is not nullable, and no two rows have the same primary key. -/
theorem constrained_of_lawful (ops : List Operation) (h : empty.LawfulRun ops) : (empty.run ops).Constrained :=
  Constrained.run (fun _ he => absurd he List.not_mem_nil) sound_empty h

end Store

namespace Sample

/-- People with a number and a name, both of which have to be there. -/
def people : TableDefinition :=
  { name := "people"
    comment := none
    columns := [⟨"id", .id, false, none, true, false, false⟩, ⟨"name", .text, false, none, false, false, false⟩] }

/-- Two people are added, and a third one without a name is refused. -/
def addingPeople : List Store.Operation :=
  [.create people, .insert "people" [("name", .text "a")], .insert "people" [("name", .text "b")],
    .insert "people" [("name", .null)]]

/-- Adding people and giving both of them one name keeps the constraints. -/
theorem renamed_people_constrained :
    (Store.empty.run (addingPeople ++ [.update "people" [] [("name", .text "c")]])).Constrained ∧
      ((Store.empty.run (addingPeople ++ [.update "people" [] [("name", .text "c")]])).tables.get? "people").map
        (fun t => t.rows.length) = some 2 := by
  refine ⟨Store.constrained_of_lawful _ ⟨?_, ?_, ?_, ?_, fun t ht => ⟨?_, ?_⟩, trivial⟩, rfl⟩
  · exact fun _ _ => trivial
  · exact fun _ _ => trivial
  · exact fun _ _ => trivial
  · exact fun _ _ => trivial
  · intro c _ _ e he _
    rw [List.mem_singleton.1 he]
    rfl
  · intro key hkey
    have hprimary : some (some "id") = some t.primaryKey := congrArg (Option.map Table.primaryKey) ht
    rw [← Option.some.inj hprimary, Option.some.injEq] at hkey
    rw [← hkey]
    decide

/-- Changing rows looks at no constraint: it writes a null where there must be none, and one key to two rows. -/
theorem update_breaks_constraints :
    ¬ (Store.empty.run (addingPeople ++ [.update "people" [] [("name", .null)]])).Constrained ∧
      ¬ (Store.empty.run (addingPeople ++ [.update "people" [] [("id", .int 1)]])).Constrained := by
  constructor
  · intro h
    have hnull := (h _ List.mem_cons_self).nulls _ (List.mem_cons_of_mem _ List.mem_cons_self) rfl _
      List.mem_cons_self
    exact absurd hnull (by decide)
  · intro h
    have hkeys := (h _ List.mem_cons_self).keys "id" rfl
    exact absurd hkeys (by decide)

end Sample

end DataModel

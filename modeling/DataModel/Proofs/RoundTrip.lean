import DataModel.Proofs.Alignment
import DataModel.Proofs.Vocabulary

/-!
# A row that is created is found

A row that is created is prepared, completed by its table and given its key, and it is looked for by this key. When the
primary keys in the table are integers and texts, the keys of different rows are told apart by the filter as they are by
the table, so the row is the one that is found, among however many, with every column of the model: what was given as
the model stores it, and otherwise its default, a time of writing, or null. Rows that were found before come first and
are found as they were.
-/

namespace DataModel

namespace Value

/-- Whether a value is an integer or a text. -/
def isIntOrText : Value → Bool
  | int _ | text _ => true
  | _ => false

theorem isIntOrText_cases {v : Value} (h : v.isIntOrText = true) : (∃ n, v = int n) ∨ ∃ s, v = text s := by
  cases v with
  | int n => exact Or.inl ⟨n, rfl⟩
  | text s => exact Or.inr ⟨s, rfl⟩
  | null | bool | float | list | map => simp [isIntOrText] at h

theorem looseEq_text (a b : String) : (text a).looseEq (text b) = decide (a = b) := by
  simp [looseEq, rank, same]

/-- Integers and texts that a filter takes for equal have the same key. -/
theorem key_eq_of_holds {cell id : Value} (hcell : cell.isIntOrText = true) (hid : id.isIntOrText = true)
    (h : Operator.eq.holds cell id = true) : cell.key = id.key := by
  obtain ⟨a, rfl⟩ | ⟨a, rfl⟩ := isIntOrText_cases hcell
  · obtain ⟨b, rfl⟩ | ⟨b, rfl⟩ := isIntOrText_cases hid
    · have hsame : (int a).looseEq (int b) = true := h
      rw [looseEq_int, decide_eq_true_iff] at hsame
      rw [hsame]
    · cases h
  · -- next to a text, an integer is compared by its text, which is its key
    obtain ⟨b, rfl⟩ | ⟨b, rfl⟩ := isIntOrText_cases hid
    · have hsame : (text a).looseEq (text (Numeral.int64Text b)) = true := h
      rw [looseEq_text, decide_eq_true_iff] at hsame
      rw [hsame]
      rfl
    · have hsame : (text a).looseEq (text b) = true := h
      rw [looseEq_text, decide_eq_true_iff] at hsame
      rw [hsame]

theorem holds_eq_self {v : Value} (h : v.isIntOrText = true) : Operator.eq.holds v v = true := by
  obtain ⟨a, rfl⟩ | ⟨a, rfl⟩ := isIntOrText_cases h
  · have hsame : (int a).looseEq (int a) = true := by rw [looseEq_int, decide_eq_true_iff]
    exact hsame
  · have hsame : (text a).looseEq (text a) = true := by rw [looseEq_text, decide_eq_true_iff]
    exact hsame

theorem isSome_key {v : Value} (h : v.isIntOrText = true) : v.key.isSome = true := by
  obtain ⟨a, rfl⟩ | ⟨a, rfl⟩ := isIntOrText_cases h
  · rfl
  · rfl

end Value

namespace Model

variable {m : Model} {row values : Record} {sur : Surroundings} {c : Column}

/-- What hashing makes of a value under a column. -/
def hashedFor? (sur : Surroundings) (c : Column) (v : Value) : Option Value :=
  match v with
  | .text password =>
    if c.isPassword then (PasswordHash.make? sur.hashCost sur.salt password).map .text else some v
  | _ => some v

/-- The first of some columns is hashed, and then the others are. -/
theorem exists_of_hashed_cons {columns : List Column} (h : m.hashed sur (c :: columns) row = .ok values) :
    ∃ row' : Record, m.hashed sur columns row' = .ok values ∧
      row'.get? c.name = (row.get? c.name).bind (hashedFor? sur c) ∧
      ∀ name, name ≠ c.name → row'.get? name = row.get? name := by
  unfold hashed at h
  split at h
  next hpassword =>
    split at h
    next password hcell =>
      split at h
      next hash hmake =>
        refine ⟨_, h, ?_, fun name hname => Assoc.get?_insert_of_ne (Ne.symm hname)⟩
        rw [Assoc.get?_insert_self, hcell, Option.bind_some, hashedFor?, if_pos hpassword, hmake, Option.map_some]
      next => cases h
    next hnot =>
      refine ⟨row, h, ?_, fun _ _ => rfl⟩
      cases hcell : row.get? c.name with
      | none => rfl
      | some v =>
        rw [Option.bind_some]
        cases v with
        | text password => exact absurd hcell (hnot password)
        | _ => rfl
  next hpassword =>
    refine ⟨row, h, ?_, fun _ _ => rfl⟩
    cases hcell : row.get? c.name with
    | none => rfl
    | some v => cases v <;> simp [hashedFor?, hpassword]

theorem get?_hashed_of_not_mem {columns : List Column} (h : m.hashed sur columns row = .ok values) {name : String}
    (hname : name ∉ columns.map Column.name) : values.get? name = row.get? name := by
  induction columns generalizing row with
  | nil => rw [ok_eq_ok_iff.1 h]
  | cons d columns ih =>
    obtain ⟨row', hrest, -, hothers⟩ := exists_of_hashed_cons h
    rw [List.map_cons, List.mem_cons, not_or] at hname
    rw [ih hrest hname.2, hothers name hname.1]

/-- Every column is hashed once. -/
theorem get?_hashed {columns : List Column} (hnames : (columns.map Column.name).Nodup)
    (h : m.hashed sur columns row = .ok values) (hc : c ∈ columns) :
    values.get? c.name = (row.get? c.name).bind (hashedFor? sur c) := by
  induction columns generalizing row with
  | nil => cases hc
  | cons d columns ih =>
    obtain ⟨row', hrest, hfirst, hothers⟩ := exists_of_hashed_cons h
    rw [List.map_cons, List.nodup_cons] at hnames
    rcases List.mem_cons.1 hc with rfl | hc
    · rw [get?_hashed_of_not_mem hrest hnames.1, hfirst]
    · have hne : c.name ≠ d.name := fun he => hnames.1 (he ▸ List.mem_map_of_mem hc)
      rw [ih hnames.2 hrest hc, hothers c.name hne]

/-- What is stored for a value that is given for a column: the hash of a password, what a JSON text says, or else the
value itself. -/
def storedFor? (sur : Surroundings) (c : Column) (v : Value) : Option Value :=
  match v with
  | .text s =>
    if c.isPassword then (PasswordHash.make? sur.hashCost sur.salt s).map .text
    else if c.kind = .json then some ((Value.parseSorted? s).getD v)
    else some v
  | _ => some v

theorem hashedFor?_taken (sur : Surroundings) (hplain : ¬ (c.kind = .json ∧ c.isPassword = true)) (v : Value) :
    hashedFor? sur c (taken c.kind v) = storedFor? sur c v := by
  by_cases hjson : c.kind = .json
  · have hpassword : c.isPassword = false := Bool.eq_false_iff.2 fun hp => hplain ⟨hjson, hp⟩
    have hsame : ∀ w, hashedFor? sur c w = some w := by
      intro w
      cases w <;> simp [hashedFor?, hpassword]
    rw [hsame, hjson]
    cases v <;> simp [storedFor?, taken, hpassword, hjson]
  · have htaken : taken c.kind v = v := by
      unfold taken
      split
      next _ hkind => exact absurd hkind hjson
      next => rfl
    rw [htaken]
    cases v <;> simp [storedFor?, hashedFor?, hjson]

/-- What a new row holds under a column that is not the primary key: the time of writing where the model sets it, what
is stored for a value that is given, and otherwise the default, or null when there is none. -/
def createdCell? (m : Model) (sur : Surroundings) (row : Record) (c : Column) : Option Value :=
  if m.timestamps = true ∧ c.name = updatedAt then some (.text sur.now)
  else
    match row.get? c.name with
    | some v => storedFor? sur c v
    | none => if m.timestamps = true ∧ c.name = createdAt then some (.text sur.now) else some (c.default.getD .null)

/-- A row to be inserted holds what a new row holds, except for the defaults. -/
theorem Coherent.get?_prepare (hm : m.Coherent) (hplain : ∀ c ∈ m.columns, ¬ (c.kind = .json ∧ c.isPassword = true))
    (h : m.prepare sur .insert row = .ok values) (hc : c ∈ m.columns) (hkey : c.name ≠ m.primaryKey) :
    m.createdCell? sur row c = some ((values.get? c.name).getD (c.default.getD .null)) := by
  obtain ⟨-, hashed, hhashed, rfl⟩ := exists_of_prepare h
  have hgiven : (m.withoutNullKey (m.known row)).get? c.name = (row.get? c.name).map (taken c.kind) := by
    rw [get?_withoutNullKey_of_ne hkey, get?_known (hm.column?_eq hc)]
  have hcell := get?_hashed hm.names hhashed hc
  rw [hgiven] at hcell
  rw [createdCell?, get?_stamped]
  by_cases hupdated : m.timestamps = true ∧ c.name = updatedAt
  · rw [if_pos hupdated, if_pos hupdated, Option.getD_some]
  rw [if_neg hupdated, if_neg hupdated]
  cases hrow : row.get? c.name with
  | none =>
    rw [hrow] at hcell
    rw [hcell]
    dsimp only
    split <;> rfl
  | some v =>
    rw [hrow, Option.map_some, Option.bind_some, hashedFor?_taken sur (hplain c hc)] at hcell
    -- the hash is there, as the row could be prepared
    have hin : c.name ∈ hashed.keys := by
      rw [keys_hashed hhashed]
      by_contra hnot
      rw [Assoc.get?_eq_none_iff.2 hnot, hrow] at hgiven
      cases hgiven
    rw [Record.get?_eq_some_cell hin] at hcell ⊢
    dsimp only
    rw [← hcell]
    split <;> rfl

/-- A new row that is not said to be deleted is not. -/
theorem isNullAt_deletedAt_of_cells (hkey : m.primaryKey ∉ [createdAt, updatedAt, deletedAt])
    (hmarks : m.marksDeleted = true)
    (hdeleted : ∀ c ∈ m.columns, c.name = deletedAt → (row.get? c.name).getD (c.default.getD .null) = .null)
    {built : Record} (hcells : ∀ c ∈ m.columns, c.name ≠ m.primaryKey → built.get? c.name = m.createdCell? sur row c) :
    built.isNullAt deletedAt = true := by
  rw [marksDeleted, Bool.and_eq_true] at hmarks
  obtain ⟨c, hc, hname⟩ := List.mem_map.1 (hasColumnIn_iff.1 hmarks.2)
  have hne : c.name ≠ m.primaryKey := fun he => hkey (by rw [← he, hname]; decide)
  have hupdated : c.name ≠ updatedAt := by rw [hname]; decide
  have hcreated : c.name ≠ createdAt := by rw [hname]; decide
  have hvalue := hdeleted c hc hname
  have hcell : built.get? c.name = some .null := by
    rw [hcells c hc hne, createdCell?, if_neg fun hs => hupdated hs.2]
    cases hrow : row.get? c.name with
    | none =>
      rw [hrow, Option.getD_none] at hvalue
      dsimp only
      rw [if_neg fun hs => hcreated hs.2, hvalue]
    | some v =>
      rw [hrow, Option.getD_some] at hvalue
      rw [hvalue]
      rfl
  rw [Record.isNullAt, ← hname, hcell]
  rfl

/-- The table builds a row of all columns of the model, in their order, with what a new row holds. -/
theorem Coherent.built_of_prepare (hm : m.Coherent)
    (hplain : ∀ c ∈ m.columns, ¬ (c.kind = .json ∧ c.isPassword = true))
    (h : m.prepare sur .insert row = .ok values) {t : Table} (hmade : t.emptied = .ofDefinition m.table) {name : String}
    {next next' : Int} {built : Record} (hb : t.build name values next = .ok (built, next')) :
    built.keys = m.columnNames ∧
      ∀ c ∈ m.columns, c.name ≠ m.primaryKey → built.get? c.name = m.createdCell? sur row c := by
  -- how a row is built does not depend on the rows that are there
  have hbuild : (Table.ofDefinition m.table).build name values next = .ok (built, next') := by
    obtain ⟨hcolumns, hnulls, hkeyed⟩ := Table.build_eq_ok_iff.1 hb
    have hfound := Table.checkColumns_eq_ok_iff.1 hcolumns
    have hchecked : t.emptied.checkColumns name values.keys = .ok () := Table.checkColumns_eq_ok_iff.2 hfound
    rw [← hmade]
    exact Table.build_eq_ok_iff.2 ⟨hchecked, hnulls, hkeyed⟩
  refine ⟨?_, fun c hc hkey => ?_⟩
  · have hnames : (m.table.columns.map ColumnDefinition.name).Nodup := m.names_definitions ▸ hm.names
    rw [(Table.aligned_ofDefinition hnames).keys_build hbuild, m.columnNames_made]
  · have hcolumn : (Table.ofDefinition m.table).hasColumn c.name = true := by
      rw [Table.hasColumn_iff, ← Table.columnNames, m.columnNames_made]
      exact List.mem_map_of_mem hc
    have hne : (Table.ofDefinition m.table).primaryKey ≠ some c.name := by
      rw [hm.primaryKey_made]
      exact fun he => hkey (Option.some.inj he).symm
    obtain ⟨-, -, hkeyed⟩ := Table.build_eq_ok_iff.1 hbuild
    have hrow := congrArg Prod.fst hkeyed
    dsimp only at hrow
    rw [← hrow, Table.get?_withKey fun he => hne he.1, Table.get?_complete values hcolumn, hm.defaults_made hc,
      hm.get?_prepare hplain h hc hkey]

end Model

namespace Handle

variable {h : Handle} {q : Descriptor} {id : Value}

/-- The request for the row with a primary key. -/
def seeking (h : Handle) (id : Value) (q : Descriptor) : Descriptor :=
  { (h.byId id q).limitedTo 1 with offset := none }

/-- What is found is the first row that is read. -/
theorem find_eq_ok_iff_head? (hwiths : q.withs = []) {row : Record} :
    h.find id q = .ok row ↔ ∃ rows, h.library.read h.model (h.seeking id q) = .ok rows ∧ rows.head? = some row := by
  rw [← Library.run_of_no_loads (q := h.seeking id q) hwiths]
  constructor
  · intro hfind
    obtain ⟨rows, hrows, hfirst⟩ := bind_eq_ok_iff.1 hfind
    cases rows with
    | nil => cases hfirst
    | cons first rest => exact ⟨_, hrows, congrArg some (ok_eq_ok_iff.1 hfirst).symm⟩
  · rintro ⟨rows, hrows, hfirst⟩
    cases rows with
    | nil => cases hfirst
    | cons first rest => exact bind_eq_ok_iff.2 ⟨_, hrows, congrArg Except.ok (Option.some.inj hfirst)⟩

theorem found_seeking (horders : q.orders = []) {t : Table}
    (ht : h.library.store.tables.get? h.model.tableName = some t) :
    h.library.found h.model (h.seeking id q) = (t.rows.find? (h.model.admits (h.seeking id q))).toList := by
  have hunsorted : Record.sortedBy (h.seeking id q).orders (t.rows.filter (h.model.admits (h.seeking id q))) =
      t.rows.filter (h.model.admits (h.seeking id q)) := by
    rw [show (h.seeking id q).orders = [] from horders]
    rfl
  rw [Library.found, Library.rowsOf_eq ht, hunsorted, ← List.head?_filter]
  cases t.rows.filter (h.model.admits (h.seeking id q)) <;> rfl

/-- Without an order the row that is found is the first one that the request admits. -/
theorem find_eq_ok_iff (hwiths : q.withs = []) (horders : q.orders = []) {row : Record} :
    h.find id q = .ok row ↔
      ∃ t, h.library.store.tables.get? h.model.tableName = some t ∧ h.model.CanAsk t (h.seeking id q) ∧
        ∃ stored, t.rows.find? (h.model.admits (h.seeking id q)) = some stored ∧
          row = Table.project ((h.seeking id q).columnsFor h.model) stored := by
  rw [find_eq_ok_iff_head? hwiths]
  constructor
  · rintro ⟨rows, hrows, hfirst⟩
    obtain ⟨t, ht, hcan, rfl⟩ := Library.read_eq_ok_iff.1 hrows
    rw [found_seeking horders ht, List.head?_map, Option.head?_toList, Option.map_eq_some_iff] at hfirst
    obtain ⟨stored, hstored, rfl⟩ := hfirst
    exact ⟨t, ht, hcan, stored, hstored, rfl⟩
  · rintro ⟨t, ht, hcan, stored, hstored, rfl⟩
    refine ⟨_, Library.read_eq_ok_iff.2 ⟨t, ht, hcan, rfl⟩, ?_⟩
    rw [found_seeking horders ht, hstored]
    rfl

theorem canAsk_of_columns {m : Model} {t t' : Table} (h : m.CanAsk t q) (hcolumns : t'.columns = t.columns) :
    m.CanAsk t' q := by
  have hsame (c : String) : t'.hasColumn c = t.hasColumn c := by rw [Table.hasColumn, hcolumns, Table.hasColumn]
  exact ⟨h.select, h.orders, h.wheres, fun c hc => hsame c ▸ h.selected c hc, fun o ho => hsame _ ▸ h.ordered o ho,
    fun c hc => hsame c ▸ h.filtered c hc, fun hg => hsame _ ▸ h.marked hg⟩

/-- To create a row is to put it behind the others, under a key that none of them has. -/
theorem exists_of_create {sur : Surroundings} {row : Record} {s' : Store} {t : Table}
    (ht : h.library.store.tables.get? h.model.tableName = some t) (hc : h.create sur row = .ok (id, s')) :
    ∃ values built next t', h.model.prepare sur .insert row = .ok values ∧
      t.build h.model.tableName values t.nextId = .ok (built, next) ∧
      (∀ key, t.primaryKey = some key → id = built.cell key ∧
        ∀ old ∈ t.rows, ∀ k, (old.cell key).key = some k → (built.cell key).key ≠ some k) ∧
      s'.tables.get? h.model.tableName = some t' ∧ t'.emptied = t.emptied ∧ t'.rows = t.rows ++ [built] := by
  obtain ⟨values, hvalues, hc⟩ := bind_eq_ok_iff.1 hc
  obtain ⟨t₀, t', ht₀, hi, rfl⟩ := Store.exists_put (Library.ofStore_eq_ok_iff.1 hc)
  rw [← Option.some.inj (ht.symm.trans ht₀)] at hi
  obtain ⟨built, next, hbuilt, hkeys, hid, rfl⟩ := Table.exists_of_insert hi
  refine ⟨values, built, next, _, hvalues, hbuilt, fun key hkey => ⟨hid key hkey, fun old hold k hk hnew => ?_⟩,
    Assoc.get?_insert_self _ _ _, rfl, rfl⟩
  rw [Table.checkPrimaryKeys, hkey] at hkeys
  refine (Table.checkKeys_eq_ok_iff.1 hkeys).2 k ?_ (List.mem_filterMap.2 ⟨old, hold, ?_⟩)
  · exact List.mem_filterMap.2 ⟨built, List.mem_singleton_self _, (Table.keyAt_eq key built).trans hnew⟩
  · rw [Table.keyAt_eq, hk]

/-- Rows that are added behind the others leave what is found as it was. -/
theorem find_of_appended {s' : Store} {t t' : Table} {more : List Record}
    (ht : h.library.store.tables.get? h.model.tableName = some t) (ht' : s'.tables.get? h.model.tableName = some t')
    (hcolumns : t'.columns = t.columns) (hrows : t'.rows = t.rows ++ more) (hwiths : q.withs = [])
    (horders : q.orders = []) {row : Record} (hf : h.find id q = .ok row) :
    (Handle.mk ⟨h.library.registry, s'⟩ h.model).find id q = .ok row := by
  obtain ⟨t₀, ht₀, hcan, stored, hstored, rfl⟩ := (find_eq_ok_iff hwiths horders).1 hf
  rw [← Option.some.inj (ht.symm.trans ht₀)] at hcan hstored
  -- the first row that the request admits stays the first one
  refine (find_eq_ok_iff hwiths horders).2 ⟨t', ht', canAsk_of_columns hcan hcolumns, stored, ?_, rfl⟩
  have hfirst : t'.rows.find? (h.model.admits (h.seeking id q)) = some stored := by
    rw [hrows, List.find?_append, hstored, Option.some_or]
  exact hfirst

/-- A request for a key admits the rows with the key that the request admits. -/
theorem admits_seeking (h : Handle) (id : Value) (q : Descriptor) (row : Record) :
    h.model.admits (h.seeking id q) row =
      (Operator.eq.holds (row.cell h.model.primaryKey) id && h.model.admits q row) := by
  change (row.passes (q.narrowed (.compare h.model.primaryKey .eq id)).wheres &&
    (!h.model.guards q || row.isNullAt deletedAt)) = _
  rw [Record.passes_narrowed, Bool.and_assoc]
  rfl

/-- Any row can be looked for in the table of a model. -/
theorem canAsk_seeking (hm : h.model.Coherent) {t : Table} (hmade : t.emptied = .ofDefinition h.model.table)
    (id : Value) : h.model.CanAsk t (h.seeking id .empty) := by
  have hkey : h.model.hasColumn h.model.primaryKey = true := Model.hasColumnIn_iff.2 hm.primary
  have hwheres : ∀ c ∈ Table.columnsOfAll (h.seeking id .empty).wheres, c = h.model.primaryKey := fun c hc =>
    (Model.mem_columnsOfAll_narrowed.1 hc).resolve_right List.not_mem_nil
  refine ⟨nofun, nofun, fun c hc => hwheres c hc ▸ hkey, nofun, nofun, fun c hc => ?_, fun hg => ?_⟩
  · rw [hwheres c hc, Model.Coherent.hasColumn_made hmade]
    exact hm.primary
  · rw [Model.Coherent.hasColumn_made hmade]
    simp only [Model.guards, Model.marksDeleted, Bool.and_eq_true] at hg
    exact Model.hasColumnIn_iff.1 hg.1.2

/-- The last row is found by its key when no other has it. -/
theorem find?_seeking (rows : List Record) {last : Record}
    (hlast : (last.cell h.model.primaryKey).isIntOrText = true)
    (hothers : ∀ row ∈ rows, (row.cell h.model.primaryKey).isIntOrText = true ∧
      (row.cell h.model.primaryKey).key ≠ (last.cell h.model.primaryKey).key)
    (hmark : h.model.marksDeleted = true → last.isNullAt deletedAt = true) :
    (rows ++ [last]).find? (h.model.admits (h.seeking (last.cell h.model.primaryKey) .empty)) = some last := by
  have hnone : rows.find? (h.model.admits (h.seeking (last.cell h.model.primaryKey) .empty)) = none := by
    refine List.find?_eq_none.2 fun row hrow hadmits => ?_
    obtain ⟨hkeyed, hne⟩ := hothers row hrow
    rw [admits_seeking, Bool.and_eq_true] at hadmits
    exact hne (Value.key_eq_of_holds hkeyed hlast hadmits.1)
  have hfound : h.model.admits (h.seeking (last.cell h.model.primaryKey) .empty) last = true := by
    rw [admits_seeking, Value.holds_eq_self hlast, Bool.true_and, Library.admits_iff]
    exact ⟨rfl, fun hmarks _ => hmark hmarks⟩
  rw [List.find?_append, hnone, Option.none_or, List.find?_singleton, if_pos hfound]

end Handle

namespace Model

/-- The columns of a model are the declared ones, and behind them those that are added. -/
theorem columns_of_resolve {name source : String} {declared : Metadata} {m : Model}
    (h : resolve name source declared = .ok m) :
    ∃ own added, m.columns = own ++ added ∧
      own.map Column.name = declared.columns.map ColumnDeclaration.name ∧
      (∀ c ∈ own, c.implicit = false) ∧ ∀ c ∈ added, c.implicit = true := by
  rw [resolve, check_bind_eq_ok_iff] at h
  obtain ⟨own, hown, h⟩ := bind_eq_ok_iff.1 h.2
  obtain ⟨added, hadded, h⟩ := bind_eq_ok_iff.1 h
  rw [ok_eq_ok_iff.1 h]
  refine ⟨own, added, rfl, names_of_mapM hown, fun c hc => ?_, fun c hc => ?_⟩
  · obtain ⟨d, -, hof⟩ := exists_of_mem_mapM hown hc
    exact (fields_of_ofDeclaration hof).2
  · obtain ⟨d, -, hof⟩ := exists_of_mem_mapM hadded hc
    exact (fields_of_ofDeclaration hof).2

end Model

namespace Handle

/-- When the primary keys of a table are integers and texts, a row that is created is found by the key that it was
given, with every column of the model in order, those that were added last, and with what a new row holds; what it was
given under other names makes no difference. The rows that were found before are found as they were. The table is as a
migration of the model makes it, and the row is not created as one that is deleted. -/
theorem created_row_found {name source : String} {declared : Metadata} {m : Model}
    (hresolve : Model.resolve name source declared = .ok m) (hkey : m.primaryKey ∉ [createdAt, updatedAt, deletedAt])
    (hplain : ∀ c ∈ m.columns, ¬ (c.kind = .json ∧ c.isPassword = true)) {s : Store} (hs : m.MadeIn s)
    (registry : Registry) (sur : Surroundings) {row : Record}
    (hdeleted : m.marksDeleted = true → ∀ c ∈ m.columns, c.name = deletedAt →
      (row.get? c.name).getD (c.default.getD .null) = .null)
    {id : Value} {s' : Store} (hcreate : (Handle.mk ⟨registry, s⟩ m).create sur row = .ok (id, s'))
    (hkeys : ∀ stored ∈ s'.rowsOf m.tableName, (stored.cell m.primaryKey).isIntOrText = true) :
    (∃ found, (Handle.mk ⟨registry, s'⟩ m).find id .empty = .ok found ∧ found.keys = m.columnNames ∧
      found.get? m.primaryKey = some id ∧
      ∀ c ∈ m.columns, c.name ≠ m.primaryKey → found.get? c.name = m.createdCell? sur row c) ∧
      (∃ own added, m.columns = own ++ added ∧
        own.map Column.name = declared.columns.map ColumnDeclaration.name ∧
        (∀ c ∈ own, c.implicit = false) ∧ ∀ c ∈ added, c.implicit = true) ∧
      (Handle.mk ⟨registry, s⟩ m).create sur (m.restricted row) = .ok (id, s') ∧
      ∀ other q found, q.withs = [] → q.orders = [] → (Handle.mk ⟨registry, s⟩ m).find other q = .ok found →
        (Handle.mk ⟨registry, s'⟩ m).find other q = .ok found := by
  have hm := Model.coherent_of_resolved hresolve
  obtain ⟨t, ht, hmade⟩ := hs.table
  have hprimary : t.primaryKey = some m.primaryKey := (congrArg Table.primaryKey hmade).trans hm.primaryKey_made
  obtain ⟨values, built, next, t', hvalues, hbuilt, hid, ht', hsame, hrows⟩ :=
    exists_of_create (h := ⟨⟨registry, s⟩, m⟩) ht hcreate
  obtain ⟨rfl, hnew⟩ := hid m.primaryKey hprimary
  obtain ⟨hnames, hcells⟩ := hm.built_of_prepare hplain hvalues hmade hbuilt
  have hstored : s'.rowsOf m.tableName = t.rows ++ [built] :=
    (Store.rowsOf_of_table (Library.table?_eq_ok_iff.2 ht')).trans hrows
  -- the row that was created is the last one, and the only one with its key
  rw [hstored, List.forall_mem_append, List.forall_mem_singleton] at hkeys
  obtain ⟨hold, hkeyed⟩ := hkeys
  refine ⟨⟨built, ?_, hnames, ?_, hcells⟩, Model.columns_of_resolve hresolve, ?_, ?_⟩
  · have hfirst := find?_seeking (h := ⟨⟨registry, s'⟩, m⟩) t.rows hkeyed (fun old hin => ⟨hold old hin, ?_⟩)
      fun hmarks => ?_
    · rw [← hrows] at hfirst
      exact (find_eq_ok_iff rfl rfl).2
        ⟨t', ht', canAsk_seeking (h := ⟨⟨registry, s'⟩, m⟩) hm (hsame.trans hmade) _, built, hfirst, rfl⟩
    · -- the table has refused a key that is there
      obtain ⟨k, hk⟩ := Option.isSome_iff_exists.1 (Value.isSome_key (hold old hin))
      rw [hk]
      exact (hnew old hin k hk).symm
    · exact Model.isNullAt_deletedAt_of_cells hkey hmarks (hdeleted hmarks) hcells
  · exact Record.get?_eq_some_cell (hnames ▸ hm.primary)
  · rw [create_restricted (h := ⟨⟨registry, s⟩, m⟩)]
    exact hcreate
  · intro other q found hwiths horders hf
    have hcolumns : t'.columns = t.columns := by simpa using congrArg Table.columns hsame
    exact find_of_appended (h := ⟨⟨registry, s⟩, m⟩) ht ht' hcolumns hrows hwiths horders hf

end Handle

namespace Sample

/-- Entries have a title, a body in JSON and a status, and keep their times. -/
def declaredEntry : Metadata :=
  { name := "entry"
    table := ⟨"entries", none⟩
    columns :=
      [.added "title" "string" false, .added "body" "json" true,
        { ColumnDeclaration.added "status" "string" false with default := some (.text "draft") }]
    relations := []
    options := ⟨true, true⟩ }

def entry : Model :=
  resolved declaredEntry

/-- A row for an entry, which also says who wrote it. -/
def firstEntry : Record :=
  [("body", .text "[1]"), ("author", .text "Ada"), ("title", .text "First")]

/-- The store after the first entry is created. -/
def entries : Store :=
  match (Handle.mk ⟨⟨[]⟩, newStore entry⟩ entry).create surroundings firstEntry with
  | .ok (_, s) => s
  | .error _ => newStore entry

theorem create_firstEntry :
    (Handle.mk ⟨⟨[]⟩, newStore entry⟩ entry).create surroundings firstEntry = .ok (.int 1, entries) := rfl

/-- The first entry is found with what it was given, read, and with what it was not given, filled in. -/
theorem firstEntry_found :
    ∃ found, (Handle.mk ⟨⟨[]⟩, entries⟩ entry).find (.int 1) .empty = .ok found ∧
      found.keys = ["title", "body", "status", "id", "created_at", "updated_at", "deleted_at"] ∧
      found.get? "id" = some (.int 1) ∧ found.get? "body" = some (.list [.int 1]) ∧
      found.get? "status" = some (.text "draft") ∧ found.get? "created_at" = some (.text "2025-01-01") := by
  have hresolve : Model.resolve "entry" "" declaredEntry = .ok entry := rfl
  have hmade : entry.MadeIn (newStore entry) := (owned_newStore entry).madeIn (Model.coherent_of_resolved hresolve)
  have hplain : ∀ c ∈ entry.columns, ¬ (c.kind = .json ∧ c.isPassword = true) := by decide
  have hdefault : ∀ c ∈ entry.columns, c.name = deletedAt → c.default.isNone = true := by decide
  have hdeleted : ∀ c ∈ entry.columns, c.name = deletedAt →
      (firstEntry.get? c.name).getD (c.default.getD .null) = .null := by
    intro c hc hname
    rw [Option.isNone_iff_eq_none.1 (hdefault c hc hname), hname]
    rfl
  have hkeys : ∀ stored ∈ entries.rowsOf entry.tableName, (stored.cell entry.primaryKey).isIntOrText = true := by decide
  obtain ⟨⟨found, hfound, hnames, hid, hcells⟩, -⟩ := Handle.created_row_found hresolve (by decide) hplain hmade ⟨[]⟩
    surroundings (fun _ => hdeleted) create_firstEntry hkeys
  have hcell (i : Fin entry.columns.length) (hi : (entry.columns.get i).name ≠ entry.primaryKey) :=
    hcells (entry.columns.get i) (List.get_mem _ i) hi
  have hbody := hcell ⟨1, by decide⟩ (by decide)
  have hstatus := hcell ⟨2, by decide⟩ (by decide)
  have hcreated := hcell ⟨4, by decide⟩ (by decide)
  exact ⟨found, hfound, hnames, hid, hbody.trans rfl, hstatus, hcreated⟩

end Sample

end DataModel

import DataModel.Proofs.Freshness
import DataModel.Proofs.Intake
import DataModel.Proofs.OrderClause
import DataModel.Proofs.Ranking

/-!
# Rows without an order

A statement without an order asks for the rows by their primary key. The store gives them as they are stored, one behind
the other as they have come. This is the same as long as the stored keys do not decrease. A generated key is above all
keys before it, and no operation but an update of the key makes keys decrease that do not; so what matters are the keys
that rows are given: the order is lost with the first of them that is less than a key before it.
-/

namespace DataModel

namespace Value

/-- The number of an integer. -/
def integer? : Value → Option Int64
  | int n => some n
  | _ => none

theorem integer?_eq_some_iff {v : Value} {n : Int64} : v.integer? = some n ↔ v = int n := by
  cases v with
  | int m => exact ⟨fun h => congrArg int (Option.some.inj h), fun h => congrArg some (int.inj h)⟩
  | _ => exact iff_of_false nofun nofun

/-- Whether a value is not greater than another, if both are integers. -/
def UpTo (a b : Value) : Prop :=
  ∀ m ∈ a.integer?, ∀ n ∈ b.integer?, m ≤ n

-- given by name, lest all integers be gone through
instance : DecidableRel UpTo := fun a b =>
  @Option.decidableForallMem _ _ (fun m => @Option.decidableForallMem _ _ (fun n => m.decLe n) b.integer?) a.integer?

end Value

namespace Record

variable {column : String} {orders : List Order} {rows : List Record}

/-- Whether the integers under a column do not decrease from row to row. -/
def Climbing (column : String) (rows : List Record) : Prop :=
  rows.Pairwise fun a b => (a.cell column).UpTo (b.cell column)

instance (column : String) (rows : List Record) : Decidable (Climbing column rows) :=
  inferInstanceAs (Decidable (List.Pairwise _ _))

/-- Whether every row has an integer under a column. -/
def Whole (column : String) (rows : List Record) : Prop :=
  ∀ row ∈ rows, (row.cell column).integer?.isSome = true

instance (column : String) (rows : List Record) : Decidable (Whole column rows) :=
  inferInstanceAs (Decidable (∀ row ∈ rows, _))

theorem climbing_iff_map :
    Climbing column rows ↔ (rows.map fun row => row.cell column).Pairwise Value.UpTo :=
  List.pairwise_map.symm

/-- Integers that do not decrease are in ascending order. -/
theorem climbing_iff_inOrder (h : Whole column rows) : Climbing column rows ↔ InOrder [⟨column, .asc⟩] rows := by
  refine List.Pairwise.iff_of_mem fun {a b} ha hb => ?_
  obtain ⟨m, hm⟩ := Option.isSome_iff_exists.1 (h a ha)
  obtain ⟨n, hn⟩ := Option.isSome_iff_exists.1 (h b hb)
  have hupTo : (a.cell column).UpTo (b.cell column) ↔ m ≤ n := by
    rw [Value.UpTo, hm, hn]
    exact ⟨fun hle => hle m rfl n rfl, fun hle _ hm' _ hn' => Option.some.inj hm' ▸ Option.some.inj hn' ▸ hle⟩
  rw [hupTo, compareBy_singleton, Value.integer?_eq_some_iff.1 hm, Value.integer?_eq_some_iff.1 hn, Value.order,
    Option.getD_some, Ne, Int.compare_eq_gt, Int.not_lt, Int64.le_iff_toInt_le]

/-- Sorting leaves rows in order as they are. -/
theorem sortedBy_of_inOrder (h : InOrder orders rows) : sortedBy orders rows = rows := by
  by_cases ho : orders = []
  · subst ho
    rfl
  have hpairwise : (([] : List Record).reverse ++ rows).Pairwise fun a b => compareBy orders b a ≠ .lt := by
    refine List.Pairwise.imp (fun hab => ?_) h
    rw [compareBy_swap]
    exact mt Ordering.swap_eq_lt.1 hab
  rw [sortedBy_eq ho, insertAll_of_pairwise hpairwise, List.append_nil, List.reverse_reverse]

end Record

/-- Whether a table has a primary key, whose cells are integers, and its counter is within 64 bits. -/
structure Table.KeyedByInt (t : Table) (key : String) : Prop where
  primary : t.primaryKey = some key
  whole : Record.Whole key t.rows
  counter : t.nextId < 2 ^ 63

namespace Store

variable {s : Store} {declared : TableSchema} {key : String} {t : Table}

/-- Whether what is selected of a table without an order is what the statement asks for: the answer is that to the same
request with the orders of the statement, and the keys in it do not decrease. -/
structure AnswersByKey (s : Store) (declared : TableSchema) (key : String) : Prop where
  select : ∀ schema q, q.orders = [] → s.select declared.name q =
    s.select declared.name { q with orders := Sql.orders (Sql.lexemes (Sql.select schema declared q).text) }
  climbing : ∀ q rows, q.orders = [] → (q.columns = [] ∨ key ∈ q.columns) → s.select declared.name q = .ok rows →
    Record.Climbing key rows

end Store

/-- Rows that stand in the order of their keys are selected as if they were asked for in this order. -/
theorem Table.select_of_climbing {t : Table} {key : String} (hcolumn : t.hasColumn key = true)
    (hwhole : Record.Whole key t.rows) (h : Record.Climbing key t.rows) (name : String) (q : Selection)
    (hq : q.orders = []) : t.select name q = t.select name { q with orders := [⟨key, .asc⟩] } := by
  obtain ⟨columns, filter, orders, limit, offset⟩ := q
  obtain rfl : orders = [] := hq
  have hsorted : Record.sortedBy [⟨key, .asc⟩] (t.matching filter) = t.matching filter :=
    Record.sortedBy_of_inOrder (((Record.climbing_iff_inOrder hwhole).1 h).sublist List.filter_sublist)
  have hkey : t.checkColumns name [key] = .ok () :=
    checkColumns_eq_ok_iff.2 fun c hc => List.mem_singleton.1 hc ▸ hcolumn
  simp only [select, List.map_cons, List.map_nil, hkey, hsorted]
  rfl

namespace Store

variable {s : Store} {declared : TableSchema} {key : String} {t : Table}

/-- The answers are those that the statement asks for exactly when the stored keys do not decrease. -/
theorem answersByKey_iff (hprimary : declared.primaryKey = some key) (hdeclared : declared.columns ≠ []) (hs : s.Sound)
    (hkeyed : ∀ t, s.tables.get? declared.name = some t → t.KeyedByInt key) :
    s.AnswersByKey declared key ↔ Record.Climbing key (s.rowsOf declared.name) := by
  have horders : ∀ schema q, q.orders = [] →
      Sql.orders (Sql.lexemes (Sql.select schema declared q).text) = [⟨key, .asc⟩] := fun schema q hq => by
    rw [Sql.orders_select hprimary hdeclared, if_pos hq]
  cases ht : s.tables.get? declared.name with
  | none =>
    -- without the table nothing is selected, and nothing is stored
    have hmissing : ∀ q, s.select declared.name q = .error (.missingTable declared.name) := fun q => by
      rw [Store.select, Store.table?, ht]
      rfl
    rw [rowsOf, ht]
    refine iff_of_true ⟨fun schema q _ => by rw [hmissing, hmissing], fun q rows _ _ h => ?_⟩ List.Pairwise.nil
    rw [hmissing] at h
    cases h
  | some t =>
    have hselect : ∀ q, s.select declared.name q = t.select declared.name q := fun q => by
      rw [Store.select, Library.table?_eq_ok_iff.2 ht]
      rfl
    have ht' := hkeyed t ht
    have hcolumn : t.hasColumn key = true := (hs.table ht).primary key ht'.primary
    rw [rowsOf, ht]
    constructor
    · -- a request for all rows shows how they are stored
      intro h
      refine h.climbing (.ofFilter []) t.rows rfl (Or.inl rfl) ?_
      have hall : t.matching [] = t.rows := List.filter_eq_self.2 fun _ _ => rfl
      have hsame : Table.project [] = id := rfl
      rw [hselect, Table.select_eq_ok_iff]
      refine ⟨List.forall_mem_nil _, List.forall_mem_nil _, List.forall_mem_nil _, ?_⟩
      change t.rows = (t.matching []).map (Table.project [])
      rw [hall, hsame, List.map_id]
    · intro h
      refine ⟨fun schema q hq => ?_, fun q rows hq hcolumns hrows => ?_⟩
      · rw [horders schema q hq, hselect, hselect]
        exact Table.select_of_climbing hcolumn ht'.whole h declared.name q hq
      · rw [hselect, Table.select_eq_ok_iff, hq] at hrows
        obtain ⟨-, -, -, rfl⟩ := hrows
        have hfound : (Table.window q.offset q.limit (t.matching q.filter)).Sublist t.rows :=
          (Table.window_sublist _ _ _).trans List.filter_sublist
        refine List.pairwise_map.2 ((List.Pairwise.sublist hfound h).imp fun hab => ?_)
        rwa [Table.cell_project hcolumns, Table.cell_project hcolumns]

end Store

namespace Table

variable {t t' : Table} {name key : String} {op : Store.Operation}

/-- Without a generator a row that is given no key has none. -/
theorem cell_of_lacksKey (hkey : t.primaryKey = some key) (hauto : t.autoIncrement = false) {values row : Record}
    {next next' : Int} (hb : t.build name values next = .ok (row, next')) (hlacks : t.lacksKey key values = true) :
    row.cell key = .null := by
  have hnull : (t.withKey (t.complete values) next).1.isNullAt key =
      ((t.complete values).isNullAt key && !t.autoIncrement) := isNullAt_withKey hkey
  rw [(build_eq_ok_iff.1 hb).2.2, hauto, Bool.not_false, Bool.and_true] at hnull
  exact Record.isNullAt_iff.1 (hnull.trans hlacks)

theorem cell_of_lacksKey_buildAll (hkey : t.primaryKey = some key) (hauto : t.autoIncrement = false)
    {columns : List String} {rows : List (List Value)} {next last : Int} {built : List Record}
    (hb : t.buildAll name columns next rows = .ok (built, last)) :
    ∀ e ∈ List.zipWith (t.entry key) (rows.map fun values => Assoc.ofPairs (columns.zip values)) built,
      e.generated = true → e.key = .null := by
  induction rows generalizing next built with
  | nil => exact nofun
  | cons values rows ih =>
    obtain ⟨-, row, middle, rest, hrow, hrest, rfl⟩ := buildAll_cons_eq_ok_iff.1 hb
    exact List.forall_mem_cons.2 ⟨cell_of_lacksKey hkey hauto hrow, ih hrest⟩

/-- Whether the keys that the entries for new rows say are given, are not less than the keys of the rows of a table and
of the entries before them. -/
def Climbs (t : Table) (key : String) (es : List Entry) : Prop :=
  (∀ e ∈ es, e.generated = false → ∀ row ∈ t.rows, (row.cell key).UpTo e.key) ∧
    es.Pairwise fun earlier later => later.generated = false → earlier.key.UpTo later.key

instance (t : Table) (key : String) (es : List Entry) : Decidable (t.Climbs key es) :=
  inferInstanceAs (Decidable (_ ∧ _))

/-- Whether the generated keys are not less than the keys before them. -/
def Generates (t : Table) (key : String) (es : List Entry) : Prop :=
  (∀ e ∈ es, e.generated = true → ∀ row ∈ t.rows, (row.cell key).UpTo e.key) ∧
    es.Pairwise fun earlier later => later.generated = true → earlier.key.UpTo later.key

theorem generates_of_null {es : List Entry} (h : ∀ e ∈ es, e.generated = true → e.key = .null) :
    t.Generates key es := by
  have hupTo : ∀ e ∈ es, e.generated = true → ∀ v : Value, v.UpTo e.key := by
    intro e he hgenerated v m _ n hn
    rw [h e he hgenerated] at hn
    cases hn
  exact ⟨fun e he hgenerated row _ => hupTo e he hgenerated _,
    List.pairwise_of_forall_mem_list fun a _ b hb hgenerated => hupTo b hb hgenerated _⟩

/-- A table that is ahead of its journal generates keys above all keys before them. -/
theorem Ahead.generates {es es' : List Entry} (h : t.Ahead key es) (h' : t'.Ahead key (es ++ es'))
    (hcounter : t'.nextId < 2 ^ 63) : t.Generates key es' := by
  have hupTo : ∀ {earlier later : Entry}, later.Exceeds earlier → later.generated = true →
      earlier.key.UpTo later.key := by
    intro earlier later hexceeds hgenerated m hm n hn
    obtain ⟨id, hid, hless⟩ := hexceeds hgenerated
    rw [hid] at hn
    rw [← Option.some.inj hn]
    exact Int64.le_of_lt (hless m (by rw [Value.integer?_eq_some_iff.1 hm]; rfl))
  obtain ⟨-, hamong, hbetween⟩ := List.pairwise_append.1 (h'.ledger.pairwise (by decide) hcounter)
  refine ⟨fun e he hgenerated row hrow => ?_, hamong.imp hupTo⟩
  obtain ⟨earlier, hearlier, hkey⟩ := h.known row hrow
  exact hkey ▸ hupTo (hbetween earlier hearlier e he) hgenerated

/-- Rows that are added have keys that do not decrease exactly when those do not that are given. -/
theorem climbing_append_iff {given built : List Record} (hlength : built.length = given.length)
    (h : Record.Climbing key t.rows) (hgenerates : t.Generates key (List.zipWith (t.entry key) given built)) :
    Record.Climbing key (t.rows ++ built) ↔ t.Climbs key (List.zipWith (t.entry key) given built) := by
  have hkeys : (List.zipWith (t.entry key) given built).map Entry.key = built.map fun row => row.cell key :=
    keys_entries hlength
  rw [Record.climbing_iff_map, List.map_append, ← hkeys, List.pairwise_append, List.pairwise_map (f := Entry.key)]
  constructor
  · rintro ⟨-, hamong, hacross⟩
    refine ⟨fun e he _ row hrow => ?_, hamong.imp ?_⟩
    · exact hacross _ (List.mem_map_of_mem hrow) _ (List.mem_map_of_mem he)
    · exact fun hupTo _ => hupTo
  · rintro ⟨hgiven, hamong⟩
    refine ⟨Record.climbing_iff_map.1 h, ?_, ?_⟩
    · refine (hamong.and hgenerates.2).imp fun {_ later} hupTo => ?_
      cases hlater : later.generated with
      | false => exact hupTo.1 hlater
      | true => exact hupTo.2 hlater
    · rintro a ha b hb
      obtain ⟨row, hrow, rfl⟩ := List.mem_map.1 ha
      obtain ⟨e, he, rfl⟩ := List.mem_map.1 hb
      cases hgenerated : e.generated with
      | false => exact hgiven e he hgenerated row hrow
      | true => exact hgenerates.1 e he hgenerated row hrow

/-- Altering a table leaves the keys of its rows. -/
theorem keys_alter (hs : t.Sound) (hkey : t.primaryKey = some key) {d : TableDiff} (ha : t.alter name d = .ok t') :
    (t'.rows.map fun row => row.cell key) = t.rows.map fun row => row.cell key := by
  refine (alter_rec (motive := fun u => u.Sound ∧ u.primaryKey = some key ∧
    (u.rows.map fun row => row.cell key) = t.rows.map fun row => row.cell key) ha ⟨hs, hkey, rfl⟩ ?_ ?_).2.2
  · rintro u ⟨hu, hprimary, hrows⟩ c
    refine ⟨hu.addColumn c, ?_⟩
    unfold addColumn
    split
    · exact ⟨hprimary, hrows⟩
    next hnew =>
      -- the column is new, and the primary key is one of the columns
      have hne : c.name ≠ key := fun he => hnew (he ▸ hu.primary key hprimary)
      refine ⟨hprimary, ?_⟩
      rw [List.map_map, ← hrows]
      exact List.map_congr_left fun row _ => Record.cell_congr (Assoc.get?_insert_of_ne hne)
  · rintro u ⟨hu, hprimary, hrows⟩ c
    exact ⟨hu.changeColumn c, hprimary, hrows⟩

theorem keys_update {filter : List Where} {values : Record} {n : Nat} (hvalues : key ∉ values.keys)
    (hu : t.update name filter values = .ok (n, t')) :
    (t'.rows.map fun row => row.cell key) = t.rows.map fun row => row.cell key := by
  obtain ⟨-, rfl⟩ := eq_of_update hu
  rw [List.map_map]
  refine List.map_congr_left fun row _ => ?_
  rw [Function.comp_apply]
  split
  · exact Record.cell_congr (Assoc.get?_extend_of_not_mem hvalues)
  · rfl

theorem climbs_nil : t.Climbs key [] :=
  ⟨nofun, List.Pairwise.nil⟩

theorem Makes.autoIncrement (h : t.Makes op t') : t'.autoIncrement = t.autoIncrement := by
  cases h with
  | alter h =>
    refine alter_rec (motive := fun u => u.autoIncrement = t.autoIncrement) h rfl (fun u hu c => ?_) fun u hu c => hu
    unfold addColumn
    split <;> exact hu
  | insert h =>
    obtain ⟨_, _, -, -, -, rfl⟩ := exists_of_insert h
    rfl
  | insertAll h =>
    obtain ⟨_, _, -, -, -, rfl⟩ := exists_of_insertAll h
    rfl
  | update h =>
    obtain ⟨-, rfl⟩ := eq_of_update h
    rfl
  | delete h =>
    obtain rfl := eq_of_delete h
    rfl

/-- An operation that does not set the primary key leaves keys that do not decrease exactly when those do not that it is
given. -/
theorem climbing_makes_iff (hmakes : t.Makes op t') (hs : t.Sound) (hkey : t.primaryKey = some key)
    (hop : op.Spares op.target key) (hahead : t.autoIncrement = true → ∃ es, t.Ahead key es)
    (hcounter : t'.nextId < 2 ^ 63) (h : Record.Climbing key t.rows) :
    Record.Climbing key t'.rows ↔
      t.Climbs key (List.zipWith (t.entry key) op.given (t'.rows.drop t.rows.length)) := by
  have hgenerates : (t.autoIncrement = false → ∀ e ∈ List.zipWith (t.entry key) op.given
      (t'.rows.drop t.rows.length), e.generated = true → e.key = .null) →
      t.Generates key (List.zipWith (t.entry key) op.given (t'.rows.drop t.rows.length)) := by
    intro hnull
    cases hauto : t.autoIncrement with
    | false => exact generates_of_null (hnull hauto)
    | true =>
      obtain ⟨es, hes⟩ := hahead hauto
      exact hes.generates (hes.makes hop hmakes) hcounter
  cases hmakes with
  | alter ha =>
    refine iff_of_true ?_ climbs_nil
    rwa [Record.climbing_iff_map, keys_alter hs hkey ha, ← Record.climbing_iff_map]
  | update hu =>
    refine iff_of_true ?_ climbs_nil
    rwa [Record.climbing_iff_map, keys_update (hop rfl) hu, ← Record.climbing_iff_map]
  | delete hd =>
    refine iff_of_true ?_ climbs_nil
    obtain rfl := eq_of_delete hd
    exact List.Pairwise.sublist List.filter_sublist h
  | insert hi =>
    obtain ⟨row, next, hrow, -, -, rfl⟩ := exists_of_insert hi
    rw [List.drop_left] at hgenerates ⊢
    refine climbing_append_iff rfl h (hgenerates fun hauto => ?_)
    exact List.forall_mem_singleton.2 (cell_of_lacksKey hkey hauto hrow)
  | insertAll hi =>
    obtain ⟨built, next, hbuilt, -, -, rfl⟩ := exists_of_insertAll hi
    rw [List.drop_left] at hgenerates ⊢
    refine climbing_append_iff ?_ h (hgenerates fun hauto => ?_)
    · rw [length_of_buildAll hbuilt, Store.Operation.given, List.length_map]
    · exact cell_of_lacksKey_buildAll hkey hauto hbuilt

end Table

namespace Store

variable {s : Store} {t : Table} {name key : String} {op : Operation} {ops : List Operation}

/-- Whether the keys that an operation is given for new rows of a table are not less than the keys of the rows that are
there and of the new rows before them. -/
def Climbs (s : Store) (name key : String) (op : Operation) : Prop :=
  ∀ t ∈ s.tables.get? name, t.Climbs key (s.entered name key op)

instance (s : Store) (name key : String) (op : Operation) : Decidable (s.Climbs name key op) :=
  inferInstanceAs (Decidable (∀ t ∈ s.tables.get? name, _))

/-- Whether a store is sound, has one table of each name, and one of them, if it generates its keys, is ahead of them. -/
structure Tracks (s : Store) (name key : String) : Prop where
  sound : s.Sound
  distinct : Assoc.Distinct s.tables
  ahead : ∀ t, s.tables.get? name = some t → t.autoIncrement = true → ∃ es, t.Ahead key es

/-- Whether an operation does not set the primary key of a table. -/
def Operation.LeavesKeys (name key : String) : Operation → Prop
  | .update other _ values => other = name → key ∉ values.keys
  | .create _ | .alter _ _ | .drop _ | .insert _ _ | .insertAll _ _ _ | .delete _ _ => True

theorem Operation.LeavesKeys.spares {t' : Table} (h : op.LeavesKeys op.target key) (hmakes : t.Makes op t') :
    op.Spares op.target key := by
  cases hmakes with
  | update => exact h
  | alter | insert | insertAll | delete => trivial

theorem Tracks.step (h : s.Tracks name key) (hop : op.LeavesKeys name key)
    (hkeyed : ∀ t, (s.step op).tables.get? name = some t → t.KeyedByInt key) : (s.step op).Tracks name key := by
  refine ⟨h.sound.step op, distinct_step h.distinct, fun t' ht' hauto => ?_⟩
  obtain hsame | ⟨rfl, ⟨d, rfl, -, hmade⟩ | ⟨-, hdropped⟩ | ⟨t, u, ht, hu, hmakes⟩⟩ := get?_step_cases s op name
  · exact h.ahead t' (hsame ▸ ht') hauto
  · obtain rfl := Option.some.inj (hmade.symm.trans ht')
    exact ⟨[], .ofDefinition (hkeyed _ ht').primary hauto⟩
  · rw [hdropped, Assoc.get?_eq_none_iff.2 (h.distinct.not_mem_keys_erase _)] at ht'
    cases ht'
  · obtain rfl := Option.some.inj (hu.symm.trans ht')
    obtain ⟨es, hes⟩ := h.ahead t ht (hmakes.autoIncrement ▸ hauto)
    exact ⟨_, hes.makes (hop.spares hmakes) hmakes⟩

/-- An operation that does not set the primary key of a table leaves keys that do not decrease exactly when those do not
that it is given. -/
theorem climbing_step_iff (h : s.Tracks name key) (hop : op.LeavesKeys name key)
    (hkeyed : ∀ t, s.tables.get? name = some t → t.KeyedByInt key)
    (hkeyed' : ∀ t, (s.step op).tables.get? name = some t → t.KeyedByInt key)
    (hclimbing : Record.Climbing key (s.rowsOf name)) :
    Record.Climbing key ((s.step op).rowsOf name) ↔ s.Climbs name key op := by
  obtain hsame | ⟨rfl, ⟨d, rfl, hnone, hmade⟩ | ⟨-, hdropped⟩ | ⟨t, t', ht, ht', hmakes⟩⟩ := get?_step_cases s op name
  · refine iff_of_true (by rwa [rowsOf, hsame]) fun t ht => ?_
    rw [entered_eq_nil ht (hsame.trans ht)]
    exact Table.climbs_nil
  · refine iff_of_true (by rw [rowsOf, hmade]; exact List.Pairwise.nil) fun t ht => ?_
    cases hnone.symm.trans ht
  · have hgone : (s.step op).tables.get? op.target = none := by
      rw [hdropped, Assoc.get?_eq_none_iff.2 (h.distinct.not_mem_keys_erase _)]
    refine iff_of_true (by rw [rowsOf, hgone]; exact List.Pairwise.nil) fun t ht => ?_
    have hnothing : s.entered op.target key op = [] := by
      rw [entered, ht, rowsOf, hgone]
      change List.zipWith _ _ (List.drop _ []) = []
      rw [List.drop_nil, List.zipWith_nil_right]
    rw [hnothing]
    exact Table.climbs_nil
  · have hstep := Table.climbing_makes_iff hmakes (h.sound.table ht) (hkeyed t ht).primary (hop.spares hmakes)
      (h.ahead t ht) (hkeyed' t' ht').counter (by rwa [rowsOf, ht] at hclimbing)
    rw [rowsOf, ht']
    refine hstep.trans ⟨fun hclimbs u hu => ?_, fun hclimbs => ?_⟩
    · rw [entered_eq ht ht', ← Option.some.inj (ht.symm.trans hu)]
      exact hclimbs
    · rw [← entered_eq ht ht']
      exact hclimbs t ht

theorem run_append_singleton (s : Store) (ops : List Operation) (op : Operation) :
    s.run (ops ++ [op]) = (s.run ops).step op :=
  List.foldl_concat step s op ops

section Run

variable (hops : ∀ op ∈ ops, op.LeavesKeys name key)
  (hkeyed : ∀ before, before <+: ops → ∀ t, (empty.run before).tables.get? name = some t → t.KeyedByInt key)
include hops hkeyed

theorem tracks_run {before : List Operation} (hbefore : before <+: ops) : (empty.run before).Tracks name key := by
  induction before using List.reverseRecOn with
  | nil => exact ⟨sound_empty, List.nodup_nil, nofun⟩
  | append_singleton before op ih =>
    have hop : op ∈ ops := hbefore.subset (List.mem_append_right _ List.mem_cons_self)
    have hkeyed' := hkeyed (before ++ [op]) hbefore
    rw [run_append_singleton] at hkeyed' ⊢
    exact (ih ((List.prefix_append _ _).trans hbefore)).step (hops op hop) hkeyed'

/-- Along a run that does not set the primary key the stored keys do not decrease exactly when those do not that the
operations are given. -/
theorem climbing_run_iff : (∀ before, before <+: ops → Record.Climbing key ((empty.run before).rowsOf name)) ↔
    ∀ before op, before ++ [op] <+: ops → (empty.run before).Climbs name key op := by
  have hstep : ∀ before op, before ++ [op] <+: ops → Record.Climbing key ((empty.run before).rowsOf name) →
      (Record.Climbing key ((empty.run (before ++ [op])).rowsOf name) ↔ (empty.run before).Climbs name key op) := by
    intro before op hprefix hclimbing
    have hbefore : before <+: ops := (List.prefix_append _ _).trans hprefix
    have hop : op ∈ ops := hprefix.subset (List.mem_append_right _ List.mem_cons_self)
    have hkeyed' := hkeyed (before ++ [op]) hprefix
    rw [run_append_singleton] at hkeyed' ⊢
    exact climbing_step_iff (tracks_run hops hkeyed hbefore) (hops op hop) (hkeyed before hbefore) hkeyed' hclimbing
  constructor
  · intro h before op hprefix
    exact (hstep before op hprefix (h before ((List.prefix_append _ _).trans hprefix))).1 (h _ hprefix)
  · intro h before hbefore
    induction before using List.reverseRecOn with
    | nil => exact List.Pairwise.nil
    | append_singleton before op ih =>
      exact (hstep before op hbefore (ih ((List.prefix_append _ _).trans hbefore))).2 (h before op hbefore)

end Run

/-- In every state that is reached, what is selected of a table without an order is what the statement asks for, whatever
the columns, the filter, the limit and the offset, exactly when the keys of the stored rows do not decrease. In all
states of a run that does not set the primary key this is so exactly when no operation of the run is given a key that is
less than one before it. The primary key has integers, and its counter stays within 64 bits. -/
theorem unordered_rows_by_key {declared : TableSchema} (hprimary : declared.primaryKey = some key)
    (hdeclared : declared.columns ≠ [])
    (hkeyed : ∀ before, before <+: ops →
      ∀ t, (empty.run before).tables.get? declared.name = some t → t.KeyedByInt key) :
    ((empty.run ops).AnswersByKey declared key ↔ Record.Climbing key ((empty.run ops).rowsOf declared.name)) ∧
      ((∀ op ∈ ops, op.LeavesKeys declared.name key) →
        ((∀ before, before <+: ops → (empty.run before).AnswersByKey declared key) ↔
          ∀ before op, before ++ [op] <+: ops → (empty.run before).Climbs declared.name key op)) := by
  have hanswers : ∀ before, before <+: ops → ((empty.run before).AnswersByKey declared key ↔
      Record.Climbing key ((empty.run before).rowsOf declared.name)) := fun before hbefore =>
    answersByKey_iff hprimary hdeclared (sound_run before) (hkeyed before hbefore)
  refine ⟨hanswers ops List.prefix_rfl, fun hops => ?_⟩
  rw [← climbing_run_iff hops hkeyed]
  exact forall₂_congr hanswers

end Store

namespace Sample

/-- People as a statement knows them. -/
def declaredPeople : TableSchema :=
  ⟨"people", some "id", true, ["id", "name"], [("id", .id), ("name", .text)]⟩

/-- People are added with keys that are generated and with larger ones that are given, and one is removed. -/
def climbingPeople : List Store.Operation :=
  [.create people, .insert "people" [("name", .text "Ada")], .insert "people" [("id", .int 7), ("name", .text "Bo")],
    .insertAll "people" ["name", "id"] [[.text "Cy", .null], [.text "Di", .int 12]],
    .delete "people" [.leaf .and "name" .eq (.text "Cy")], .insert "people" [("name", .text "Ed")]]

/-- Every state of this run answers in the order of the keys. -/
theorem climbing_people_by_key :
    (∀ before, before <+: climbingPeople → (Store.empty.run before).AnswersByKey declaredPeople "id") ∧
      (Store.empty.run climbingPeople).select "people" (.ofFilter []) =
        .ok [[("id", .int 1), ("name", .text "Ada")], [("id", .int 7), ("name", .text "Bo")],
          [("id", .int 12), ("name", .text "Di")], [("id", .int 13), ("name", .text "Ed")]] := by
  have hstates : ∀ before ∈ climbingPeople.inits, ∀ t ∈ (Store.empty.run before).tables.get? "people",
      t.primaryKey = some "id" ∧ Record.Whole "id" t.rows ∧ t.nextId < 2 ^ 63 := by decide +kernel
  have hsteps : ∀ i < 6, ∀ op ∈ climbingPeople[i]?,
      (Store.empty.run (climbingPeople.take i)).Climbs "people" "id" op := by decide +kernel
  have hops : ∀ op ∈ climbingPeople, op.LeavesKeys "people" "id" := by
    simp [climbingPeople, Store.Operation.LeavesKeys]
  have hkeyed : ∀ before, before <+: climbingPeople →
      ∀ t, (Store.empty.run before).tables.get? declaredPeople.name = some t → t.KeyedByInt "id" := by
    intro before hbefore t ht
    obtain ⟨hprimary, hwhole, hcounter⟩ := hstates before ((List.mem_inits _ _).2 hbefore) t ht
    exact ⟨hprimary, hwhole, hcounter⟩
  refine ⟨((Store.unordered_rows_by_key rfl (by decide) hkeyed).2 hops).2 fun before op hprefix => ?_, rfl⟩
  obtain ⟨rest, hrest⟩ := hprefix
  have hbefore : climbingPeople.take before.length = before := by simp [← hrest]
  have hop : climbingPeople[before.length]? = some op := by simp [← hrest]
  have hlength : before.length < 6 := (List.getElem?_eq_some_iff.1 hop).1
  have hclimbs := hsteps before.length hlength op hop
  rwa [hbefore] at hclimbs

/-- A person is added with the key two and another one with the key one. -/
def latePeople : List Store.Operation :=
  [.create people, .insert "people" [("id", .int 2), ("name", .text "Ada")],
    .insert "people" [("id", .int 1), ("name", .text "Bo")]]

/-- The keys of people change places with those of other people. -/
def movedPeople : List Store.Operation :=
  [.create people, .insert "people" [("name", .text "Ada")], .insert "people" [("name", .text "Bo")],
    .update "people" [.leaf .and "name" .eq (.text "Ada")] [("id", .int 3)]]

/-- A person with a given key comes after one with a greater key, also when the statement asks for the keys in ascending
order, and so does a person after one whose key is changed. -/
theorem late_key_comes_last :
    (∃ t, (Store.empty.run latePeople).tables.get? "people" = some t ∧ t.KeyedByInt "id") ∧
      (Sql.select "public" declaredPeople (.ofFilter [])).text =
        "SELECT \"id\", \"name\" FROM \"public\".\"people\" ORDER BY \"id\"" ∧
      (Store.empty.run latePeople).select "people" (.ofFilter []) =
        .ok [[("id", .int 2), ("name", .text "Ada")], [("id", .int 1), ("name", .text "Bo")]] ∧
      (Store.empty.run latePeople).select "people" { Selection.ofFilter [] with orders := [⟨"id", .asc⟩] } =
        .ok [[("id", .int 1), ("name", .text "Bo")], [("id", .int 2), ("name", .text "Ada")]] ∧
      ¬(Store.empty.run latePeople).AnswersByKey declaredPeople "id" ∧
      ¬(Store.empty.run movedPeople).AnswersByKey declaredPeople "id" := by
  refine ⟨⟨_, rfl, rfl, by decide +kernel, by decide +kernel⟩, by decide +kernel, rfl, rfl, fun h => ?_, fun h => ?_⟩
  · exact absurd (h.climbing (.ofFilter []) _ rfl (Or.inl rfl) rfl) (by decide +kernel)
  · exact absurd (h.climbing (.ofFilter []) _ rfl (Or.inl rfl) rfl) (by decide +kernel)

end Sample

end DataModel

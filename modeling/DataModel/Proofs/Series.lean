import DataModel.Proofs.Defaults
import DataModel.Proofs.Freshness
import DataModel.Proofs.Removal

/-!
# Several rows are saved one after the other

To save several rows is to save each of them, with the defaults for what it does not bring, into the store that the save
before has left. The first save that fails ends the series: what was saved before stays, and nothing after it is looked
at. Rows that bring no key, to a table that generates its keys, are put behind the others one by one, and their keys are
the next numbers of the counter.
-/

namespace DataModel

namespace Record

/-- The value of a default in the row of a number. -/
def numbered (index : Nat) (v : Value) : Value :=
  if v.text? = some "$index" then .ofNat index else v

/-- The row of a number with the defaults for what it does not hold, behind what it holds. -/
def filled (index : Nat) (row defaults : Record) : Record :=
  row ++ (defaults.filter fun e => !row.has e.1).map fun e => (e.1, numbered index e.2)

/-- Rows that are numbered from an index on, each with the defaults for what it does not hold. -/
def filledFrom (index : Nat) (defaults : Record) (rows : List Record) : List Record :=
  rows.mapIdx fun i row => row.filled (index + i) defaults

theorem filledFrom_cons (index : Nat) (defaults row : Record) (rows : List Record) :
    filledFrom index defaults (row :: rows) = row.filled index defaults :: filledFrom (index + 1) defaults rows := by
  rw [filledFrom, List.mapIdx_cons, Nat.add_zero, filledFrom]
  congr 2
  funext i
  rw [Nat.add_right_comm, Nat.add_assoc]

theorem has_eq_decide (row : Record) (name : String) : row.has name = decide (name ∈ row.keys) := by
  rw [Bool.eq_iff_iff, decide_eq_true_iff, Assoc.has, Option.isSome_iff_ne_none, Ne, Assoc.get?_eq_none_iff, not_not]

end Record

namespace Table

/-- Numbers of a counter, from the next one on. -/
def numbersFrom (next : Int) (count : Nat) : List Int64 :=
  (List.range count).map fun i : Nat => Int64.ofInt (next + i)

theorem numbersFrom_succ (next : Int) (count : Nat) :
    numbersFrom next (count + 1) = Int64.ofInt next :: numbersFrom (next + 1) count := by
  rw [numbersFrom, List.range_succ_eq_map, List.map_cons, List.map_map, numbersFrom, Int.natCast_zero, Int.add_zero]
  refine congrArg (Int64.ofInt next :: ·) (List.map_congr_left fun i _ => ?_)
  rw [Function.comp_apply, Int.natCast_succ, Int.add_comm (i : Int), Int.add_assoc]

/-- While the counter is within 64 bits its numbers increase. -/
theorem pairwise_numbersFrom {next : Int} {count : Nat} (hlow : -2 ^ 63 ≤ next) (hhigh : next + count < 2 ^ 63) :
    (numbersFrom next count).Pairwise (· < ·) := by
  have hvalue : ∀ i : Nat, i < count → (Int64.ofInt (next + i)).toInt = next + i := fun i hi =>
    Int64.toInt_ofInt_of_le (by omega) (by omega)
  refine List.pairwise_map.2 ((List.pairwise_lt_range (n := count)).imp_of_mem fun {i j} hi hj hlt => ?_)
  rw [Int64.lt_iff_toInt_lt, hvalue i (List.mem_range.1 hi), hvalue j (List.mem_range.1 hj)]
  omega

variable {t : Table} {key : String} {values : Record}

/-- A row that is given nothing under a key that is numbered has no key before it is numbered. -/
theorem Numbers.lacksKey (h : t.Numbers key) (hvalues : key ∉ values.keys) : t.lacksKey key values = true := by
  rw [Table.lacksKey, complete_eq, Record.isNullAt, Assoc.get?_ofPairs_map]
  split
  next v hv =>
    rw [Assoc.get?_eq_none_iff.2 hvalues, Option.getD_none] at hv
    split at hv
    · rw [← Option.some.inj hv]
      exact h.2.2
    · cases hv
  next => rfl

/-- It is completed and given the next number. -/
theorem Numbers.withKey (h : t.Numbers key) (hvalues : key ∉ values.keys) (next : Int) :
    t.withKey (t.complete values) next =
      ((t.complete values).insert key (.int (Int64.ofInt next)), next + 1) := by
  have hnull : (t.complete values).isNullAt key = true := h.lacksKey hvalues
  rw [Table.withKey, h.1]
  dsimp only
  rw [h.2.1, hnull]
  rfl

end Table

namespace Model

variable {m : Model} {sur : Surroundings} {row values : Record}

/-- A row that is prepared to be new has no columns but those of the given row, and the times of writing. -/
theorem not_mem_keys_of_prepare_insert (h : m.prepare sur .insert row = .ok values) {name : String}
    (hrow : name ∉ row.keys) (hname : m.timestamps = true → name ≠ createdAt ∧ name ≠ updatedAt) :
    name ∉ values.keys := by
  obtain ⟨-, hashed, hhashed, rfl⟩ := exists_of_prepare h
  have hmem : name ∉ hashed.keys := by
    rw [keys_hashed hhashed]
    exact fun hin => hrow (mem_keys_known ((m.keys_withoutNullKey_sublist _).subset hin))
  rw [← Assoc.get?_eq_none_iff, get?_stamped, if_neg fun hs => (hname hs.1).2 hs.2,
    if_neg fun hs => (hname hs.1).1 hs.2, Assoc.get?_eq_none_iff]
  exact hmem

/-- The table that is made for a model numbers new rows under a key of the kind for keys that has no default. -/
theorem Coherent.numbers_made (hm : m.Coherent) {c : Column} (hc : c ∈ m.columns) (hkey : c.name = m.primaryKey)
    (hkind : c.kind = .id) (hdefault : c.default = none) : (Table.ofDefinition m.table).Numbers m.primaryKey := by
  refine ⟨hm.primaryKey_made, ?_, ?_⟩
  · rw [hm.autoIncrement_made hc hkey, hkind]
    rfl
  · rw [← hkey, hm.defaults_made hc, hdefault]
    rfl

end Model

namespace Handle

variable {h : Handle} {sur : Nat → Surroundings} {defaults : Record} {rows : List Record} {s' : Store}

/-- What a series puts into a row is what the row is filled with. -/
theorem withDefaults_eq_filled (hdefaults : Assoc.Distinct defaults) (index : Nat) (row : Record) :
    withDefaults index defaults row = row.filled index defaults := by
  induction defaults generalizing row with
  | nil => exact (List.append_nil row).symm
  | cons e defaults ih =>
    obtain ⟨hkey, hrest⟩ := List.nodup_cons.1 hdefaults
    have hvalue : defaultFor index e.2 = Record.numbered index e.2 := by
      unfold defaultFor Record.numbered indexMark
      cases e.2 with
      | text s => simp [Value.text?]
      | _ => rfl
    rw [Model.withDefaults_cons, Record.filled, List.filter_cons]
    cases hhas : row.has e.1 with
    | true => exact ih hrest row
    | false =>
      have hnew : e.1 ∉ row.keys := by
        rw [Record.has_eq_decide, decide_eq_false_iff_not] at hhas
        exact hhas
      -- the defaults that follow have other keys, so that the new cell is not in their way
      have hothers : ∀ d ∈ defaults, (!Assoc.has (row.insert e.1 (defaultFor index e.2)) d.1) = !row.has d.1 := by
        intro d hd
        have hne : e.1 ≠ d.1 := fun he => hkey (he ▸ List.mem_map_of_mem hd)
        rw [Assoc.has, Assoc.get?_insert_of_ne hne, Assoc.has]
      rw [if_neg Bool.false_ne_true, ih hrest, Record.filled, List.filter_congr hothers, Assoc.insert_of_not_mem hnew,
        hvalue]
      simp

/-- Rows that are numbered from an index on are saved one after the other, each into the store that the save before has
left, and their keys are given back in this order. -/
inductive SavesInTurn (sur : Nat → Surroundings) : Nat → Handle → List Record → List Value → Store → Prop
  | nil {index : Nat} {h : Handle} : SavesInTurn sur index h [] [] h.library.store
  | cons {index : Nat} {h : Handle} {row : Record} {id : Value} {s s' : Store} {rows : List Record} {ids : List Value}
      (hsave : h.save (sur index) row = .ok (id, s)) (hrest : SavesInTurn sur (index + 1) (h.withStore s) rows ids s') :
      SavesInTurn sur index h (row :: rows) (id :: ids) s'

/-- The save of the row in some place is the first one that fails: with the defaults filled in, the rows before it are
saved one after the other, and it fails in the store that they have left. -/
structure FailsAt (h : Handle) (sur : Nat → Surroundings) (defaults : Record) (index : Nat) (rows : List Record)
    (i : Nat) (e : ModelError) (s' : Store) : Prop where
  saved : ∃ ids, SavesInTurn sur index h (Record.filledFrom index defaults (rows.take i)) ids s'
  failed : ∃ row, rows[i]? = some row ∧
    (h.withStore s').save (sur (index + i)) (row.filled (index + i) defaults) = .error e

/-- The failure that is reported when the row of a number fails: of a row that is not valid, every column has the number
before it. -/
structure ReportedAs (i : Nat) (e e' : ModelError) : Prop where
  validation : ∀ errors : ValidationErrors, e = .validation errors →
    e' = .validation (errors.map fun f => { f with column := Numeral.natText i ++ "." ++ f.column })
  other : (∀ errors, e ≠ .validation errors) → e' = e

theorem reportedAs_iff {i : Nat} {e e' : ModelError} : ReportedAs i e e' ↔ e' = atRow i e := by
  constructor
  · intro hreported
    cases e with
    | validation errors => exact hreported.validation errors rfl
    | _ => exact hreported.other nofun
  · rintro rfl
    refine ⟨?_, fun hother => ?_⟩
    · rintro errors rfl
      rfl
    · cases e with
      | validation errors => exact absurd rfl (hother errors)
      | _ => rfl

/-- A series is its first save, and then the series of the other rows in the store that is left. -/
theorem eachSaveFrom_cons (hdefaults : Assoc.Distinct defaults) (index : Nat) (row : Record) (rows : List Record) :
    h.eachSaveFrom sur defaults index (row :: rows) =
      match h.save (sur index) (row.filled index defaults) with
      | .error e => (Except.error (atRow index e), h.library.store)
      | .ok (id, s) =>
        (((h.withStore s).eachSaveFrom sur defaults (index + 1) rows).1.map (id :: ·),
          ((h.withStore s).eachSaveFrom sur defaults (index + 1) rows).2) := by
  rw [eachSaveFrom, withDefaults_eq_filled hdefaults]
  cases h.save (sur index) (row.filled index defaults) with
  | error e => rfl
  | ok saved =>
    have hleft : { h with library := { h.library with store := saved.2 } } = h.withStore saved.2 := rfl
    dsimp only
    rw [hleft]
    cases (h.withStore saved.2).eachSaveFrom sur defaults (index + 1) rows with
    | mk result store => cases result <;> rfl

/-- A series succeeds with what the single saves give back and leave behind. -/
theorem eachSaveFrom_eq_ok_iff (hdefaults : Assoc.Distinct defaults) {index : Nat} {ids : List Value} :
    h.eachSaveFrom sur defaults index rows = (.ok ids, s') ↔
      SavesInTurn sur index h (Record.filledFrom index defaults rows) ids s' := by
  induction rows generalizing h index ids with
  | nil =>
    constructor
    · intro hall
      obtain ⟨hids, rfl⟩ := Prod.mk.inj hall
      obtain rfl := ok_eq_ok_iff.1 hids
      exact .nil
    · intro hturn
      cases hturn
      rfl
  | cons row rows ih =>
    rw [eachSaveFrom_cons hdefaults, Record.filledFrom_cons]
    constructor
    · intro hall
      split at hall
      next => cases hall
      next id s hsave =>
        obtain ⟨hids, hstore⟩ := Prod.mk.inj hall
        obtain ⟨ids, hrest, rfl⟩ : ∃ rest, ((h.withStore s).eachSaveFrom sur defaults (index + 1) rows).1 = .ok rest ∧
            id :: rest = ids := by
          cases hresult : ((h.withStore s).eachSaveFrom sur defaults (index + 1) rows).1 with
          | error e => rw [hresult] at hids; cases hids
          | ok rest =>
            rw [hresult] at hids
            exact ⟨rest, rfl, (ok_eq_ok_iff.1 hids).symm⟩
        exact .cons hsave (ih.1 (Prod.ext hrest hstore))
    · intro hturn
      cases hturn with
      | cons hsave hrest =>
        rw [hsave]
        dsimp only
        rw [ih.2 hrest]
        rfl

/-- The first row is the first one that fails when it fails in the store as it is. -/
theorem failsAt_zero_iff {index : Nat} {row : Record} {e : ModelError} :
    h.FailsAt sur defaults index (row :: rows) 0 e s' ↔
      h.library.store = s' ∧ h.save (sur index) (row.filled index defaults) = .error e := by
  constructor
  · rintro ⟨⟨ids, hturn⟩, _, hrow, hfail⟩
    cases hturn
    obtain rfl := Option.some.inj hrow
    exact ⟨rfl, hfail⟩
  · rintro ⟨rfl, hfail⟩
    exact ⟨⟨[], .nil⟩, row, rfl, hfail⟩

/-- A later row is the first one that fails when the first row is saved, and the others fail there after it. -/
theorem failsAt_succ_iff {index i : Nat} {row : Record} {e : ModelError} :
    h.FailsAt sur defaults index (row :: rows) (i + 1) e s' ↔
      ∃ id s, h.save (sur index) (row.filled index defaults) = .ok (id, s) ∧
        (h.withStore s).FailsAt sur defaults (index + 1) rows i e s' := by
  have hplace : index + (i + 1) = index + 1 + i := by rw [Nat.add_assoc, Nat.add_comm 1]
  constructor
  · rintro ⟨⟨ids, hturn⟩, failing, hrow, hfail⟩
    rw [List.take_succ_cons, Record.filledFrom_cons] at hturn
    rw [hplace] at hfail
    cases hturn with
    | cons hsave hrest => exact ⟨_, _, hsave, ⟨_, hrest⟩, failing, hrow, hfail⟩
  · rintro ⟨id, s, hsave, ⟨ids, hrest⟩, failing, hrow, hfail⟩
    refine ⟨⟨id :: ids, ?_⟩, failing, hrow, ?_⟩
    · rw [List.take_succ_cons, Record.filledFrom_cons]
      exact .cons hsave hrest
    · rw [hplace]
      exact hfail

/-- A series fails with the first single save that fails, and leaves behind what was saved before. -/
theorem eachSaveFrom_eq_error_iff (hdefaults : Assoc.Distinct defaults) {index : Nat} {e : ModelError} :
    h.eachSaveFrom sur defaults index rows = (.error e, s') ↔
      ∃ i e', h.FailsAt sur defaults index rows i e' s' ∧ ReportedAs (index + i) e' e := by
  induction rows generalizing h index with
  | nil =>
    refine ⟨nofun, ?_⟩
    rintro ⟨i, e', ⟨-, row, hrow, -⟩, -⟩
    cases hrow
  | cons row rows ih =>
    rw [eachSaveFrom_cons hdefaults]
    constructor
    · intro hall
      split at hall
      next e' hsave =>
        obtain ⟨he, hstore⟩ := Prod.mk.inj hall
        exact ⟨0, e', failsAt_zero_iff.2 ⟨hstore, hsave⟩, reportedAs_iff.2 (Except.error.inj he).symm⟩
      next id s hsave =>
        obtain ⟨he, hstore⟩ := Prod.mk.inj hall
        have hrest : ((h.withStore s).eachSaveFrom sur defaults (index + 1) rows).1 = .error e := by
          cases hresult : ((h.withStore s).eachSaveFrom sur defaults (index + 1) rows).1 with
          | error e' => rw [hresult] at he; exact congrArg Except.error (Except.error.inj he)
          | ok rest => rw [hresult] at he; cases he
        obtain ⟨i, e', hfails, hreported⟩ := ih.1 (Prod.ext hrest hstore)
        rw [Nat.add_assoc, Nat.add_comm 1] at hreported
        exact ⟨i + 1, e', failsAt_succ_iff.2 ⟨id, s, hsave, hfails⟩, hreported⟩
    · rintro ⟨i, e', hfails, hreported⟩
      cases i with
      | zero =>
        obtain ⟨rfl, hsave⟩ := failsAt_zero_iff.1 hfails
        rw [hsave, reportedAs_iff.1 hreported]
        rfl
      | succ i =>
        obtain ⟨id, s, hsave, hrest⟩ := failsAt_succ_iff.1 hfails
        rw [Nat.add_comm i, ← Nat.add_assoc] at hreported
        rw [hsave]
        dsimp only
        rw [ih.2 ⟨i, e', hrest, hreported⟩]
        rfl

/-- Which row is the first one that fails does not depend on the rows behind it. -/
theorem FailsAt.append {index i : Nat} {e : ModelError} (hfails : h.FailsAt sur defaults index rows i e s')
    (later : List Record) : h.FailsAt sur defaults index (rows.take (i + 1) ++ later) i e s' := by
  obtain ⟨⟨ids, hturn⟩, row, hrow, hfail⟩ := hfails
  obtain ⟨hlt, -⟩ := List.getElem?_eq_some_iff.1 hrow
  have hlength : (rows.take (i + 1)).length = i + 1 := List.length_take_of_le hlt
  refine ⟨⟨ids, ?_⟩, row, ?_, hfail⟩
  · rw [List.take_append_of_le_length (by omega), List.take_take, Nat.min_eq_left (Nat.le_succ i)]
    exact hturn
  · rw [List.getElem?_append_left (by omega), List.getElem?_take_of_lt (Nat.lt_succ_self i)]
    exact hrow

/-- Whether new rows of a model are numbered by its table, unless they bring a key. -/
structure Numbers (h : Handle) (t : Table) : Prop where
  table : h.library.store.tables.get? h.model.tableName = some t
  numbers : t.Numbers h.model.primaryKey
  unstamped : h.model.timestamps = true → h.model.primaryKey ≠ createdAt ∧ h.model.primaryKey ≠ updatedAt

/-- What a series of rows without a key leaves behind: other tables as they were, and in the table of the model one row
for each, behind all others and in the same order, completed and with the next number as its key. -/
structure Appends (h : Handle) (sur : Nat → Surroundings) (t : Table) (index : Nat) (rows : List Record)
    (ids : List Value) (s' : Store) : Prop where
  others : ∀ other, other ≠ h.model.tableName → s'.tables.get? other = h.library.store.tables.get? other
  ids : ids = (Table.numbersFrom t.nextId rows.length).map .int
  added : ∃ added : List Record, added.length = rows.length ∧
    s'.tables.get? h.model.tableName =
      some { t with nextId := t.nextId + rows.length, rows := t.rows ++ added } ∧
    ∀ (i : Nat) (row : Record), rows[i]? = some row →
      ∃ values, h.model.prepare (sur (index + i)) .insert row = .ok values ∧
        added[i]? = some ((t.complete values).insert h.model.primaryKey (.int (Int64.ofInt (t.nextId + i))))

/-- A row without a key is put behind the others under the next number. -/
theorem exists_of_save_numbered {t : Table} (hn : h.Numbers t) {sur : Surroundings} {row : Record} {id : Value}
    (hrow : row.has h.model.primaryKey = false) (hsave : h.save sur row = .ok (id, s')) :
    ∃ values, h.model.prepare sur .insert row = .ok values ∧ id = .int (Int64.ofInt t.nextId) ∧
      s' = h.library.store.put h.model.tableName
        { t with
          nextId := t.nextId + 1
          rows := t.rows ++ [(t.complete values).insert h.model.primaryKey (.int (Int64.ofInt t.nextId))] } := by
  rw [Record.has_eq_decide, decide_eq_false_iff_not] at hrow
  rw [save, Assoc.get?_eq_none_iff.2 hrow] at hsave
  obtain ⟨values, hvalues, hinsert⟩ := bind_eq_ok_iff.1 hsave
  obtain ⟨u, t', hu, hinsert, rfl⟩ := Store.exists_put (Library.ofStore_eq_ok_iff.1 hinsert)
  obtain rfl := Option.some.inj (hn.table.symm.trans hu)
  obtain ⟨built, next, hbuild, -, hid, rfl⟩ := Table.exists_of_insert hinsert
  have hgiven : h.model.primaryKey ∉ values.keys := Model.not_mem_keys_of_prepare_insert hvalues hrow hn.unstamped
  have hkeyed := (Table.build_eq_ok_iff.1 hbuild).2.2
  rw [hn.numbers.withKey hgiven] at hkeyed
  obtain ⟨rfl, rfl⟩ := Prod.mk.inj hkeyed
  refine ⟨values, hvalues, ?_, rfl⟩
  rw [hid _ hn.numbers.1, Record.cell, Assoc.get?_insert_self]
  rfl

/-- Rows without a key that are saved one after the other are put behind the others. -/
theorem SavesInTurn.appends {index : Nat} {ids : List Value} (hturn : SavesInTurn sur index h rows ids s') {t : Table}
    (hn : h.Numbers t) (hrows : ∀ row ∈ rows, row.has h.model.primaryKey = false) :
    h.Appends sur t index rows ids s' := by
  induction hturn generalizing t with
  | nil =>
    refine ⟨fun _ _ => rfl, rfl, [], rfl, ?_, nofun⟩
    rw [hn.table, List.length_nil, List.append_nil, Int.natCast_zero, Int.add_zero]
  | @cons index h row id s s' rows ids hsave hrest ih =>
    rw [List.forall_mem_cons] at hrows
    obtain ⟨values, hvalues, rfl, rfl⟩ := exists_of_save_numbered hn hrows.1 hsave
    -- the table that is left still numbers new rows, from the next number on
    obtain ⟨hothers, rfl, added, hlength, htable, hadded⟩ :=
      ih ⟨Assoc.get?_insert_self _ _ _, hn.numbers, hn.unstamped⟩ hrows.2
    let first := (t.complete values).insert h.model.primaryKey (.int (Int64.ofInt t.nextId))
    refine ⟨fun other hother => ?_, ?_, first :: added, congrArg (· + 1) hlength, ?_, ?_⟩
    · exact (hothers other hother).trans (Assoc.get?_insert_of_ne (Ne.symm hother))
    · rw [List.length_cons, Table.numbersFrom_succ]
      rfl
    · refine htable.trans ?_
      rw [List.append_assoc, List.singleton_append, List.length_cons, Int.natCast_add, Int.natCast_one,
        Int.add_assoc, Int.add_comm 1]
    · intro i given hgiven
      cases i with
      | zero =>
        obtain rfl := Option.some.inj hgiven
        refine ⟨values, hvalues, ?_⟩
        rw [Int.natCast_zero, Int.add_zero]
        rfl
      | succ i =>
        obtain ⟨prepared, hprepared, hplace⟩ := hadded i given hgiven
        rw [Nat.add_assoc, Nat.add_comm 1] at hprepared
        refine ⟨prepared, hprepared, ?_⟩
        rw [List.getElem?_cons_succ, hplace, Int.natCast_add, Int.natCast_one, Int.add_comm (i : Int), Int.add_assoc]
        rfl

/-- Several rows are saved one after the other, each with the defaults for what it does not bring: the keys that are
given back and the store that is left are those of the single saves. When one of these fails, the series fails as it
does, and the store is as the saves before it have left it, whatever rows come behind. When no row brings a key, also
not by a default, and the table generates the keys, one row is added for each in order, and their keys increase. -/
theorem saved_one_after_another (h : Handle) (sur : Nat → Surroundings) (rows : List Record) {defaults : Record}
    (hdefaults : Assoc.Distinct defaults) :
    (∀ ids s', h.eachSave sur rows defaults = (.ok ids, s') ↔
      SavesInTurn sur 0 h (Record.filledFrom 0 defaults rows) ids s') ∧
    (∀ e s', h.eachSave sur rows defaults = (.error e, s') ↔
      ∃ i e', h.FailsAt sur defaults 0 rows i e' s' ∧ ReportedAs i e' e) ∧
    (∀ i e e' s', h.FailsAt sur defaults 0 rows i e' s' → ReportedAs i e' e → ∀ later,
      h.eachSave sur (rows.take (i + 1) ++ later) defaults = (.error e, s')) ∧
    ∀ t ids s', h.Numbers t → -2 ^ 63 ≤ t.nextId → t.nextId + rows.length < 2 ^ 63 →
      (∀ row ∈ Record.filledFrom 0 defaults rows, row.has h.model.primaryKey = false) →
      h.eachSave sur rows defaults = (.ok ids, s') →
      h.Appends sur t 0 (Record.filledFrom 0 defaults rows) ids s' ∧
        (Record.filledFrom 0 defaults rows).length = rows.length ∧
        (Table.numbersFrom t.nextId rows.length).Pairwise (· < ·) := by
  have herror : ∀ rows e s', h.eachSave sur rows defaults = (.error e, s') ↔
      ∃ i e', h.FailsAt sur defaults 0 rows i e' s' ∧ ReportedAs i e' e := by
    intro rows e s'
    have hiff : h.eachSaveFrom sur defaults 0 rows = (.error e, s') ↔
        ∃ i e', h.FailsAt sur defaults 0 rows i e' s' ∧ ReportedAs (0 + i) e' e := eachSaveFrom_eq_error_iff hdefaults
    simp only [Nat.zero_add] at hiff
    exact hiff
  refine ⟨fun ids s' => eachSaveFrom_eq_ok_iff hdefaults, herror rows, ?_, ?_⟩
  · intro i e e' s' hfails hreported later
    exact (herror _ e s').2 ⟨i, e', hfails.append later, hreported⟩
  · intro t ids s' hn hlow hhigh hrows hall
    exact ⟨((eachSaveFrom_eq_ok_iff hdefaults).1 hall).appends hn hrows, List.length_mapIdx,
      Table.pairwise_numbersFrom hlow hhigh⟩

end Handle

namespace Sample

/-- The tickets before there is one. -/
def ticketHandle : Handle :=
  ⟨⟨⟨[]⟩, Store.empty.run [.create ticket.table]⟩, ticket⟩

/-- What a ticket has that does not say it. -/
def ticketDefaults : Record :=
  [("uid", .text "$index"), ("note", .text "none")]

/-- Two tickets are saved, of which the second one has a former number; they are numbered in order, the first one has
its place as its former number, and the second one the note that is the default. Of three tickets the second one has a
number for a note: the first one is saved, and the failure says that it is the note of the second one, as it would if
there were no third one. -/
theorem tickets_saved_in_turn :
    Assoc.Distinct ticketDefaults ∧
      (∃ s', ticketHandle.eachSave (fun _ => surroundings) [[("note", .text "a")], [("uid", .int 7)]] ticketDefaults =
          (.ok [.int 1, .int 2], s') ∧
        s'.rowsOf "tickets" = [[("id", .int 1), ("uid", .int 0), ("note", .text "a")],
          [("id", .int 2), ("uid", .int 7), ("note", .text "none")]] ∧
        ∃ t, ticketHandle.Appends (fun _ => surroundings) t 0
          (Record.filledFrom 0 ticketDefaults [[("note", .text "a")], [("uid", .int 7)]]) [.int 1, .int 2] s') ∧
      ∃ errors s', errors.columns = ["1.note"] ∧ (s'.rowsOf "tickets").length = 1 ∧ ∀ later,
        ticketHandle.eachSave (fun _ => surroundings) ([("note", .text "a")] :: [("note", .int 3)] :: later)
          ticketDefaults = (.error (.validation errors), s') := by
  have hdefaults : Assoc.Distinct ticketDefaults := by
    unfold Assoc.Distinct
    decide
  refine ⟨hdefaults, ?_, ?_⟩
  · obtain ⟨-, -, -, hnumbered⟩ := Handle.saved_one_after_another ticketHandle (fun _ => surroundings)
      [[("note", .text "a")], [("uid", .int 7)]] hdefaults
    have hsaved : ticketHandle.eachSave (fun _ => surroundings) [[("note", .text "a")], [("uid", .int 7)]]
      ticketDefaults = (.ok [.int 1, .int 2], _) := rfl
    -- the number is of the kind for keys and has no default
    have hnumbers : (Table.ofDefinition ticket.table).Numbers ticket.primaryKey :=
      (Model.coherent_of_resolved (rfl : Model.resolve "ticket" "" declaredTicket = .ok ticket)).numbers_made
        (List.mem_of_getElem? (i := 0) rfl) rfl rfl rfl
    exact ⟨_, hsaved, rfl, _,
      (hnumbered _ _ _ ⟨rfl, hnumbers, nofun⟩ (by decide) (by decide) (by decide) hsaved).1⟩
  · obtain ⟨-, -, hfirst, -⟩ := Handle.saved_one_after_another ticketHandle (fun _ => surroundings)
      [[("note", .text "a")], [("note", .int 3)]] hdefaults
    have hfails : ticketHandle.FailsAt (fun _ => surroundings) ticketDefaults 0
        [[("note", .text "a")], [("note", .int 3)]] 1 (.validation [⟨"note", ["expects text, got integer"]⟩])
        (ticketHandle.eachSave (fun _ => surroundings) [[("note", .text "a")]] ticketDefaults).2 :=
      ⟨⟨_, .cons rfl .nil⟩, _, rfl, rfl⟩
    exact ⟨_, _, rfl, rfl, hfirst _ _ _ _ hfails (Handle.reportedAs_iff.2 rfl)⟩

end Sample

end DataModel

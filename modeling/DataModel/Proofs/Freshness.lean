import DataModel.Proofs.Layout
import DataModel.Proofs.Nesting
import DataModel.Proofs.Operation
import DataModel.Proofs.Sample
import DataModel.Proofs.Shortest

/-!
# Generated keys are new

A table counts the keys that it generates, and moves the counter past every whole number that it is given as a
key, whether as an integer, as a number without fraction or as a numeral. The primary keys of all rows that
were ever added are kept here in a journal. It is a `Ledger` from one to the counter of the table, however the
rows have come, changed and gone in between; so a generated key is larger than all the keys before it. A key
is refused when its text is there already, and the text of an integer is the key of nothing but this integer.
-/

namespace DataModel

namespace Value

/-- What has the text of an integer as its key stands for this integer. -/
theorem int?_of_key {v : Value} {n : Int64} (h : v.key = some (Numeral.int64Text n)) : v.int? = some n := by
  cases v with
  | null => cases h
  | list items => cases h
  | map entries => cases h
  | bool b =>
    -- the text of a truth value begins with a letter
    exfalso
    cases b with
    | true =>
      have ht : 't' ∈ (Numeral.int64Text n).toList := Option.some.inj h ▸ by decide
      exact absurd (Numeral.mem_int64Text ht) (by decide)
    | false =>
      have hf : 'f' ∈ (Numeral.int64Text n).toList := Option.some.inj h ▸ by decide
      exact absurd (Numeral.mem_int64Text hf) (by decide)
  | int m => exact congrArg some (Numeral.int64Text_injective (Option.some.inj h))
  | float x =>
    rw [key, Option.some.injEq] at h
    rw [int?]
    cases hx : x.isIntegral with
    | true =>
      rw [hx, if_pos rfl] at h
      exact congrArg some (Numeral.int64Text_injective h)
    | false =>
      rw [hx, if_neg Bool.false_ne_true] at h
      exact absurd h (Binary64.plainText_ne_int64Text hx n)
  | text s =>
    rw [int?, Option.some.inj h]
    exact Numeral.int64?_int64Text n

end Value

/-- Whether a failure is that of a primary key that is there already. -/
def StoreError.IsDuplicate (e : StoreError) : Prop :=
  ∃ table column text, e = .constraint (.duplicateKey table column text)

/-- The primary key that a row was added with, and whether the table has generated it. -/
structure Entry where
  generated : Bool
  key : Value

/-- Whether a key, if it is a generated one, is larger than every whole number that another key stands for. -/
def Entry.Exceeds (later earlier : Entry) : Prop :=
  later.generated = true → ∃ id : Int64, later.key = .int id ∧ ∀ n, earlier.key.int? = some n → n < id

/-- A generated key has another text than the keys that it exceeds. -/
theorem Entry.Exceeds.key_ne {later earlier : Entry} (h : later.Exceeds earlier) (hgenerated : later.generated = true)
    {text : String} (hearlier : earlier.key.key = some text) : later.key.key ≠ some text := by
  obtain ⟨id, hid, hless⟩ := h hgenerated
  rw [hid]
  intro htext
  rw [← htext] at hearlier
  exact Int64.lt_irrefl (hless id (Value.int?_of_key hearlier))

/-- Keys one after the other, from a counter to where it is afterwards. A generated key is the next number, and a key
that is given does not move the counter back, and moves it past the number it stands for. -/
inductive Ledger : Int → List Entry → Int → Prop
  | nil {next : Int} : Ledger next [] next
  | generated {next last : Int} {es : List Entry} (h : Ledger (next + 1) es last) :
      Ledger next (⟨true, .int (Int64.ofInt next)⟩ :: es) last
  | given {next next' last : Int} {v : Value} {es : List Entry} (hle : next ≤ next')
      (hpast : ∀ n, v.int? = some n → n.toInt < next') (h : Ledger next' es last) : Ledger next (⟨false, v⟩ :: es) last

namespace Ledger

variable {next middle last : Int} {es es' : List Entry}

theorem append (h : Ledger next es middle) (h' : Ledger middle es' last) : Ledger next (es ++ es') last := by
  induction h with
  | nil => exact h'
  | generated _ ih => exact .generated (ih h')
  | given hle hpast _ ih => exact .given hle hpast (ih h')

theorem le (h : Ledger next es last) : next ≤ last := by
  induction h with
  | nil => exact Int.le_refl _
  | generated _ ih => exact Int.le_of_lt ih
  | given hle _ _ ih => exact Int.le_trans hle ih

/-- Every generated key moves the counter by one. -/
theorem length_eq (h : Ledger next es last) (hes : ∀ e ∈ es, e.generated = true) : last = next + es.length := by
  induction h with
  | nil => exact (Int.add_zero _).symm
  | generated _ ih =>
    rw [ih fun e he => hes e (List.mem_cons_of_mem _ he), List.length_cons]
    omega
  | given => cases hes _ List.mem_cons_self

/-- A generated key is a number that the counter has passed on the way. -/
theorem exists_of_generated (h : Ledger next es last) (hnext : 0 ≤ next) (hlast : last < 2 ^ 63) {e : Entry}
    (he : e ∈ es) (hgenerated : e.generated = true) : ∃ id : Int64, e.key = .int id ∧ next ≤ id.toInt := by
  induction h with
  | nil => exact absurd he List.not_mem_nil
  | @generated next last es h ih =>
    rcases List.mem_cons.1 he with rfl | he
    · have hid : (Int64.ofInt next).toInt = next := Int64.toInt_ofInt_of_le (by omega) (by have := h.le; omega)
      exact ⟨_, rfl, Int.le_of_eq hid.symm⟩
    · obtain ⟨id, hid, hle⟩ := ih (by omega) hlast he
      exact ⟨id, hid, by omega⟩
  | given hle _ _ ih =>
    rcases List.mem_cons.1 he with rfl | he
    · cases hgenerated
    · obtain ⟨id, hid, hle'⟩ := ih (Int.le_trans hnext hle) hlast he
      exact ⟨id, hid, Int.le_trans hle hle'⟩

/-- A generated key exceeds every key before it. -/
theorem pairwise (h : Ledger next es last) (hnext : 0 ≤ next) (hlast : last < 2 ^ 63) :
    es.Pairwise fun earlier later => later.Exceeds earlier := by
  induction h with
  | nil => exact List.Pairwise.nil
  | @generated next last es h ih =>
    -- what is generated later comes from a counter that has passed this key
    refine List.pairwise_cons.2 ⟨fun later hlater hgenerated => ?_, ih (by omega) hlast⟩
    obtain ⟨id, hid, hle⟩ := h.exists_of_generated (by omega) hlast hlater hgenerated
    have hfirst : (Int64.ofInt next).toInt = next := Int64.toInt_ofInt_of_le (by omega) (by have := h.le; omega)
    refine ⟨id, hid, fun n hn => Int64.lt_iff_toInt_lt.2 ?_⟩
    rw [← Option.some.inj hn, hfirst]
    omega
  | given hle hpast h ih =>
    refine List.pairwise_cons.2 ⟨fun later hlater hgenerated => ?_, ih (Int.le_trans hnext hle) hlast⟩
    obtain ⟨id, hid, hle'⟩ := h.exists_of_generated (Int.le_trans hnext hle) hlast hlater hgenerated
    exact ⟨id, hid, fun n hn => Int64.lt_iff_toInt_lt.2 (Int.lt_of_lt_of_le (hpast n hn) hle')⟩

/-- The texts of generated keys differ from each other. -/
theorem nodup_texts (h : es.Pairwise fun earlier later => later.Exceeds earlier)
    (hes : ∀ e ∈ es, e.generated = true) : (es.filterMap fun e => e.key.key).Nodup := by
  have hdiffer : es.Pairwise fun earlier later =>
      ∀ text, earlier.key.key = some text → later.key.key ≠ some text :=
    h.imp_of_mem fun _ hlater hexceeds _ htext => hexceeds.key_ne (hes _ hlater) htext
  refine hdiffer.filterMap _ fun _ _ hne text htext text' htext' => ?_
  rintro rfl
  exact hne _ htext htext'

/-- No key is generated twice. -/
theorem nodup_generated (h : es.Pairwise fun earlier later => later.Exceeds earlier) :
    ((es.filter Entry.generated).map Entry.key).Nodup := by
  refine List.pairwise_map.2 ((h.filter Entry.generated).imp_of_mem fun _ hlater hexceeds hsame => ?_)
  have hgenerated := (List.mem_filter.1 hlater).2
  obtain ⟨id, hid, -⟩ := hexceeds hgenerated
  have htext : (Value.int id).key = some (Numeral.int64Text id) := rfl
  exact hexceeds.key_ne hgenerated (hsame ▸ hid ▸ htext) (hid ▸ htext)

end Ledger

namespace Table

variable {t t' : Table} {name key : String} {values row : Record} {next next' : Int}

/-- Whether the primary key of a row is null when the row has its defaults. -/
def lacksKey (t : Table) (key : String) (values : Record) : Bool :=
  (t.complete values).isNullAt key

/-- The entry for a row that was made of some values. -/
def entry (t : Table) (key : String) (values row : Record) : Entry :=
  ⟨t.lacksKey key values, row.cell key⟩

section

variable {given built : List Record} (hlength : built.length = given.length)
include hlength

theorem keys_entries : (List.zipWith (t.entry key) given built).map Entry.key = built.map fun row => row.cell key := by
  induction given generalizing built with
  | nil => rw [List.length_eq_zero_iff.1 hlength]; rfl
  | cons values given ih =>
    obtain ⟨row, built, rfl⟩ := List.exists_cons_of_length_eq_add_one hlength
    exact congrArg (row.cell key :: ·) (ih (Nat.succ.inj hlength))

theorem generated_entries :
    (List.zipWith (t.entry key) given built).map Entry.generated = given.map (t.lacksKey key) := by
  induction given generalizing built with
  | nil => rfl
  | cons values given ih =>
    obtain ⟨row, built, rfl⟩ := List.exists_cons_of_length_eq_add_one hlength
    exact congrArg (t.lacksKey key values :: ·) (ih (Nat.succ.inj hlength))

end

section

variable (hprimary : t.primaryKey = some key) (hauto : t.autoIncrement = true)
include hprimary hauto

/-- A row without a key is given the next number, and the counter moves past a key that is there. -/
theorem ledger_withKey (row : Record) (next : Int) :
    Ledger next [⟨row.isNullAt key, (t.withKey row next).1.cell key⟩] (t.withKey row next).2 := by
  unfold withKey
  simp only [hprimary, hauto, Bool.true_and]
  cases row.isNullAt key with
  | true =>
    rw [if_pos rfl, Record.cell, Assoc.get?_insert_self]
    exact .generated .nil
  | false =>
    rw [if_neg Bool.false_ne_true]
    split
    next n hn =>
      refine .given (Int.le_max_left _ _) (fun m hm => ?_) .nil
      rw [← Option.some.inj (hn.symm.trans hm)]
      exact Int.lt_of_lt_of_le (Int.lt_succ _) (Int.le_max_right _ _)
    next hn =>
      refine .given (Int.le_refl _) (fun m hm => ?_) .nil
      rw [hn] at hm
      cases hm

theorem ledger_of_build (hb : t.build name values next = .ok (row, next')) :
    Ledger next [t.entry key values row] next' := by
  have hledger := ledger_withKey hprimary hauto (t.complete values) next
  rwa [(build_eq_ok_iff.1 hb).2.2] at hledger

/-- The rows of a batch are entered one after the other. -/
theorem ledger_of_buildAll {columns : List String} {rows : List (List Value)} {built : List Record}
    (hb : t.buildAll name columns next rows = .ok (built, next')) :
    Ledger next
      (List.zipWith (t.entry key) (rows.map fun values => Assoc.ofPairs (columns.zip values)) built) next' := by
  induction rows generalizing next built with
  | nil =>
    obtain ⟨rfl, rfl⟩ := Prod.mk.inj (ok_eq_ok_iff.1 hb)
    exact .nil
  | cons values rows ih =>
    obtain ⟨-, row, middle, rest, hrow, hrest, rfl⟩ := buildAll_cons_eq_ok_iff.1 hb
    exact (ledger_of_build hprimary hauto hrow).append (ih hrest)

end

theorem not_isDuplicate_of_checkColumns {columns : List String} {e : StoreError}
    (h : t.checkColumns name columns = .error e) : ¬ e.IsDuplicate := by
  induction columns with
  | nil => cases h
  | cons c columns ih =>
    rw [checkColumns] at h
    split at h
    · exact ih h
    · cases h
      rintro ⟨_, _, _, h⟩
      cases h

theorem not_isDuplicate_of_checkNulls {columns : List LiveColumn} {e : StoreError}
    (h : checkNulls name row columns = .error e) : ¬ e.IsDuplicate := by
  induction columns with
  | nil => cases h
  | cons c columns ih =>
    rw [checkNulls] at h
    split at h
    · cases h
      rintro ⟨_, _, _, h⟩
      cases h
    · exact ih h

/-- To make a row of values looks at no other row. -/
theorem not_isDuplicate_of_build {e : StoreError} (h : t.build name values next = .error e) : ¬ e.IsDuplicate := by
  rcases bind_eq_error_iff.1 h with h | ⟨_, -, h⟩
  · exact not_isDuplicate_of_checkColumns h
  rcases bind_eq_error_iff.1 h with h | ⟨_, -, h⟩
  · exact not_isDuplicate_of_checkNulls h
  · cases h

theorem not_isDuplicate_of_buildAll {columns : List String} {rows : List (List Value)} {e : StoreError}
    (h : t.buildAll name columns next rows = .error e) : ¬ e.IsDuplicate := by
  induction rows generalizing next with
  | nil => cases h
  | cons values rows ih =>
    unfold buildAll at h
    split at h
    · cases h
      rintro ⟨_, _, _, h⟩
      cases h
    rcases bind_eq_error_iff.1 h with h | ⟨_, -, h⟩
    · exact not_isDuplicate_of_build h
    rcases bind_eq_error_iff.1 h with h | ⟨_, -, h⟩
    · exact ih h
    · cases h

/-- Whether a table generates its primary keys, and its counter is ahead of the keys of a journal, in which every
stored row has an entry. -/
structure Ahead (t : Table) (key : String) (es : List Entry) : Prop where
  sound : t.Sound
  primary : t.primaryKey = some key
  auto : t.autoIncrement = true
  ledger : Ledger 1 es t.nextId
  known : ∀ row ∈ t.rows, ∃ e ∈ es, e.key = row.cell key

namespace Ahead

variable {es : List Entry}

theorem ofDefinition {d : TableDefinition} (hprimary : (Table.ofDefinition d).primaryKey = some key)
    (hauto : (Table.ofDefinition d).autoIncrement = true) : (Table.ofDefinition d).Ahead key [] :=
  ⟨sound_ofDefinition d, hprimary, hauto, .nil, fun _ hrow => absurd hrow List.not_mem_nil⟩

/-- Rows that are added are entered. -/
theorem append (h : t.Ahead key es) {given built : List Record} (hlength : built.length = given.length)
    (hledger : Ledger t.nextId (List.zipWith (t.entry key) given built) next)
    (hsound : Sound { t with nextId := next, rows := t.rows ++ built }) :
    Ahead { t with nextId := next, rows := t.rows ++ built } key
      (es ++ List.zipWith (t.entry key) given ((t.rows ++ built).drop t.rows.length)) := by
  rw [List.drop_left]
  refine ⟨hsound, h.primary, h.auto, h.ledger.append hledger, fun row hrow => ?_⟩
  rcases List.mem_append.1 hrow with hrow | hrow
  · obtain ⟨e, he, hkey⟩ := h.known row hrow
    exact ⟨e, List.mem_append_left _ he, hkey⟩
  · have hcell : row.cell key ∈ (List.zipWith (t.entry key) given built).map Entry.key :=
      keys_entries hlength ▸ List.mem_map_of_mem hrow
    obtain ⟨e, he, hkey⟩ := List.mem_map.1 hcell
    exact ⟨e, List.mem_append_right _ he, hkey⟩

/-- A table with the same keys in its rows, or fewer, is ahead of the same journal. -/
theorem of_keys (h : t.Ahead key es) (hsound : t'.Sound) (hprimary : t'.primaryKey = t.primaryKey)
    (hauto : t'.autoIncrement = t.autoIncrement) (hnext : t'.nextId = t.nextId)
    (hrows : ∀ row' ∈ t'.rows, ∃ row ∈ t.rows, row'.cell key = row.cell key) : t'.Ahead key es := by
  refine ⟨hsound, hprimary.trans h.primary, hauto.trans h.auto, hnext ▸ h.ledger, fun row' hrow' => ?_⟩
  obtain ⟨row, hrow, hcell⟩ := hrows row' hrow'
  obtain ⟨e, he, hkey⟩ := h.known row hrow
  exact ⟨e, he, hkey.trans hcell.symm⟩

theorem addColumn (h : t.Ahead key es) (c : ColumnDefinition) : (t.addColumn c).Ahead key es := by
  have hsound := h.sound.addColumn c
  unfold Table.addColumn at hsound ⊢
  split
  · exact h
  next hnew =>
    rw [if_neg hnew] at hsound
    refine h.of_keys hsound rfl rfl rfl fun row' hrow' => ?_
    obtain ⟨row, hrow, rfl⟩ := List.mem_map.1 hrow'
    -- the column is new, and the primary key is one of the columns
    have hne : c.name ≠ key := fun he => hnew (he ▸ h.sound.primary key h.primary)
    exact ⟨row, hrow, Record.cell_congr (Assoc.get?_insert_of_ne hne)⟩

theorem alter (h : t.Ahead key es) {d : TableDiff} (ha : t.alter name d = .ok t') : t'.Ahead key es :=
  alter_rec (motive := fun u => u.Ahead key es) ha h (fun _ hu c => hu.addColumn c) fun _ hu c =>
    hu.of_keys (hu.sound.changeColumn c) rfl rfl rfl fun row hrow => ⟨row, hrow, rfl⟩

theorem update (h : t.Ahead key es) {filter : List Where} {n : Nat} (hvalues : key ∉ values.keys)
    (hu : t.update name filter values = .ok (n, t')) : t'.Ahead key es := by
  have hsound := h.sound.update hu
  obtain ⟨-, rfl⟩ := eq_of_update hu
  refine h.of_keys hsound rfl rfl rfl fun row' hrow' => ?_
  obtain ⟨row, hrow, rfl⟩ := List.mem_map.1 hrow'
  refine ⟨row, hrow, ?_⟩
  split
  · exact Record.cell_congr (Assoc.get?_extend_of_not_mem hvalues)
  · rfl

theorem delete (h : t.Ahead key es) {filter : List Where} {n : Nat}
    (hd : t.delete name filter = .ok (n, t')) : t'.Ahead key es := by
  have hsound := h.sound.delete hd
  obtain rfl := eq_of_delete hd
  exact h.of_keys hsound rfl rfl rfl fun row hrow => ⟨row, (List.mem_filter.1 hrow).1, rfl⟩

theorem insert (h : t.Ahead key es) {id : Value} (hi : t.insert name values = .ok (id, t')) :
    t'.Ahead key (es ++ List.zipWith (t.entry key) [values] (t'.rows.drop t.rows.length)) := by
  have hsound := h.sound.insert hi
  obtain ⟨row, next, hrow, -, -, rfl⟩ := exists_of_insert hi
  exact h.append rfl (ledger_of_build h.primary h.auto hrow) hsound

theorem insertAll (h : t.Ahead key es) {columns : List String} {rows : List (List Value)} {n : Nat}
    (hi : t.insertAll name columns rows = .ok (n, t')) :
    t'.Ahead key (es ++ List.zipWith (t.entry key) (rows.map fun values => Assoc.ofPairs (columns.zip values))
      (t'.rows.drop t.rows.length)) := by
  have hsound := h.sound.insertAll hi
  obtain ⟨built, next, hbuilt, -, -, rfl⟩ := exists_of_insertAll hi
  have hlength := length_of_buildAll hbuilt
  exact h.append (by rw [hlength, List.length_map]) (ledger_of_buildAll h.primary h.auto hbuilt) hsound

/-- The keys of rows that are all generated are new. -/
theorem checkPrimaryKeys (h : t.Ahead key es) {given built : List Record} (hlength : built.length = given.length)
    (hledger : Ledger t.nextId (List.zipWith (t.entry key) given built) next)
    (hgiven : ∀ values ∈ given, t.lacksKey key values = true) (hcounter : t.nextId + given.length < 2 ^ 63) :
    t.checkPrimaryKeys name built = .ok () := by
  have hgenerated : ∀ e ∈ List.zipWith (t.entry key) given built, e.generated = true := by
    intro e he
    have hmem := List.mem_map_of_mem (f := Entry.generated) he
    rw [generated_entries hlength] at hmem
    obtain ⟨values, hvalues, hlacks⟩ := List.mem_map.1 hmem
    exact hlacks ▸ hgiven values hvalues
  have hlast : next < 2 ^ 63 := by
    rw [hledger.length_eq hgenerated, List.length_zipWith, hlength, Nat.min_self]
    exact hcounter
  -- the journal goes on with the new entries, so their keys exceed the stored ones and each other
  have hpairwise := (h.ledger.append hledger).pairwise (by decide) hlast
  obtain ⟨-, hamong, hbetween⟩ := List.pairwise_append.1 hpairwise
  have htexts : built.filterMap (keyAt key) =
      (List.zipWith (t.entry key) given built).filterMap fun e => e.key.key := by
    have hkeys : (List.zipWith (t.entry key) given built).map Entry.key = built.map fun row => row.cell key :=
      keys_entries hlength
    have hsame := congrArg (List.filterMap Value.key) hkeys
    rw [List.filterMap_map, List.filterMap_map] at hsame
    rw [funext (keyAt_eq key)]
    exact hsame.symm
  simp only [Table.checkPrimaryKeys, h.primary]
  refine checkKeys_eq_ok_iff.2 ⟨htexts ▸ Ledger.nodup_texts hamong hgenerated, fun text htext hstored => ?_⟩
  rw [htexts] at htext
  obtain ⟨later, hlater, hlaterText⟩ := List.mem_filterMap.1 htext
  obtain ⟨row, hrow, hrowText⟩ := List.mem_filterMap.1 hstored
  obtain ⟨earlier, hearlier, hkey⟩ := h.known row hrow
  rw [keyAt_eq, ← hkey] at hrowText
  exact (hbetween earlier hearlier later hlater).key_ne (hgenerated later hlater) hrowText hlaterText

/-- A row without a key is not refused for its key. -/
theorem not_isDuplicate_of_insert (h : t.Ahead key es) (hvalues : t.lacksKey key values = true)
    (hcounter : t.nextId + 1 < 2 ^ 63) {e : StoreError} (hi : t.insert name values = .error e) : ¬ e.IsDuplicate := by
  rcases bind_eq_error_iff.1 hi with hi | ⟨⟨row, next⟩, hrow, hi⟩
  · exact not_isDuplicate_of_build hi
  have hgiven : ∀ v ∈ [values], t.lacksKey key v = true := fun v hv => List.mem_singleton.1 hv ▸ hvalues
  have hledger : Ledger t.nextId (List.zipWith (t.entry key) [values] [row]) next :=
    ledger_of_build h.primary h.auto hrow
  have hlength : [row].length = [values].length := rfl
  have hpass : t.checkPrimaryKeys name [row] = .ok () := h.checkPrimaryKeys hlength hledger hgiven hcounter
  rcases bind_eq_error_iff.1 hi with hi | ⟨_, -, hi⟩
  · cases hpass.symm.trans hi
  · cases hi

/-- Neither is a batch of them. -/
theorem not_isDuplicate_of_insertAll (h : t.Ahead key es) {columns : List String} {rows : List (List Value)}
    (hrows : ∀ values ∈ rows, t.lacksKey key (Assoc.ofPairs (columns.zip values)) = true)
    (hcounter : t.nextId + rows.length < 2 ^ 63) {e : StoreError} (hi : t.insertAll name columns rows = .error e) :
    ¬ e.IsDuplicate := by
  rcases bind_eq_error_iff.1 hi with hi | ⟨⟨built, next⟩, hbuilt, hi⟩
  · exact not_isDuplicate_of_buildAll hi
  have hledger := ledger_of_buildAll h.primary h.auto hbuilt
  have hpass : t.checkPrimaryKeys name built = .ok () := by
    refine h.checkPrimaryKeys (by rw [length_of_buildAll hbuilt, List.length_map]) hledger
      (List.forall_mem_map.2 hrows) ?_
    rw [List.length_map]
    exact hcounter
  rcases bind_eq_error_iff.1 hi with hi | ⟨_, -, hi⟩
  · cases hpass.symm.trans hi
  · cases hi

end Ahead

end Table

namespace Store

namespace Operation

/-- The values of the rows that an operation adds. -/
def given : Operation → List Record
  | .insert _ values => [values]
  | .insertAll _ columns rows => rows.map fun values => Assoc.ofPairs (columns.zip values)
  | .create _ | .alter _ _ | .drop _ | .update _ _ _ | .delete _ _ => []

/-- Whether an operation leaves a table in place, and the primary keys of its rows alone. -/
def Spares (name key : String) : Operation → Prop
  | .drop other => other ≠ name
  | .update other _ values => other = name → key ∉ values.keys
  | .create _ | .alter _ _ | .insert _ _ | .insertAll _ _ _ | .delete _ _ => True

end Operation

end Store

/-- The journal goes on with every operation on the table. -/
theorem Table.Ahead.makes {t t' : Table} {key : String} {es : List Entry} (h : t.Ahead key es) {op : Store.Operation}
    (hop : op.Spares op.target key) (hmakes : t.Makes op t') :
    t'.Ahead key (es ++ List.zipWith (t.entry key) op.given (t'.rows.drop t.rows.length)) := by
  cases hmakes with
  | alter ha => exact (List.append_nil es).symm ▸ h.alter ha
  | insert hi => exact h.insert hi
  | insertAll hi => exact h.insertAll hi
  | update hu => exact (List.append_nil es).symm ▸ h.update (hop rfl) hu
  | delete hd => exact (List.append_nil es).symm ▸ h.delete hd

namespace Store

variable {s : Store} {name key : String} {t t' : Table} {op : Operation}

/-- The entries of the rows that an operation adds to a table. -/
def entered (s : Store) (name key : String) (op : Operation) : List Entry :=
  match s.tables.get? name with
  | none => []
  | some t => List.zipWith (t.entry key) op.given (((s.step op).rowsOf name).drop t.rows.length)

/-- The primary keys that rows were added with to a table, in the order in which they came. -/
def journal (s : Store) (name key : String) : List Operation → List Entry
  | [] => []
  | op :: ops => s.entered name key op ++ journal (s.step op) name key ops

theorem entered_eq (ht : s.tables.get? name = some t) (ht' : (s.step op).tables.get? name = some t') :
    s.entered name key op = List.zipWith (t.entry key) op.given (t'.rows.drop t.rows.length) := by
  rw [entered, ht, rowsOf, ht']

/-- An operation that leaves a table as it is adds nothing to it. -/
theorem entered_eq_nil (ht : s.tables.get? name = some t) (ht' : (s.step op).tables.get? name = some t) :
    s.entered name key op = [] := by
  rw [entered_eq ht ht', List.drop_length, List.zipWith_nil_right]

/-- An operation that spares a table keeps it ahead of its journal. -/
theorem ahead_step {es : List Entry} (ht : s.tables.get? name = some t) (h : t.Ahead key es)
    (hop : op.Spares name key) :
    ∃ t', (s.step op).tables.get? name = some t' ∧ t'.Ahead key (es ++ s.entered name key op) := by
  obtain hsame | ⟨htarget, ⟨d, -, hnone, -⟩ | ⟨rfl, -⟩ | ⟨u, t', hu, ht', hmakes⟩⟩ := get?_step_cases s op name
  · refine ⟨t, hsame.trans ht, ?_⟩
    rw [entered_eq_nil ht (hsame.trans ht), List.append_nil]
    exact h
  · cases hnone.symm.trans ht
  · exact absurd rfl hop
  · subst htarget
    rw [← Option.some.inj (ht.symm.trans hu)] at hmakes
    refine ⟨t', ht', ?_⟩
    rw [entered_eq ht ht']
    exact h.makes hop hmakes

theorem ahead_run {es : List Entry} {ops : List Operation} (ht : s.tables.get? name = some t) (h : t.Ahead key es)
    (hops : ∀ op ∈ ops, op.Spares name key) :
    ∃ t', (s.run ops).tables.get? name = some t' ∧ t'.Ahead key (es ++ s.journal name key ops) := by
  induction ops generalizing s t es with
  | nil => exact ⟨t, ht, (List.append_nil es).symm ▸ h⟩
  | cons op ops ih =>
    rw [List.forall_mem_cons] at hops
    obtain ⟨u, hu, hahead⟩ := ahead_step ht h hops.1
    obtain ⟨t', ht', hahead'⟩ := ih hu hahead hops.2
    rw [List.append_assoc] at hahead'
    exact ⟨t', ht', hahead'⟩

/-- A change of one table fails as it does on the table. -/
theorem error_of_put {α : Type} {f : Table → Except StoreError (α × Table)} {e : StoreError}
    (ht : s.tables.get? name = some t)
    (h : ((s.table? name).bind fun t => (f t).bind fun p => .ok (p.1, s.put name p.2)) = .error e) :
    f t = .error e := by
  rw [Library.table?_eq_ok_iff.2 ht] at h
  change (f t >>= fun p => _) = _ at h
  rcases bind_eq_error_iff.1 h with h | ⟨_, -, h⟩
  · exact h
  · cases h

/-- Keys that a table generates are new, from its creation on and whatever is done to it, as long as it is not
dropped, no update sets its primary key and its counter stays within 64 bits. A generated key is a number larger than
every whole number among the primary keys before it, given or generated, of rows that are there or no longer are; no
number is generated twice; and rows that have no key with their defaults filled in, one or a batch of them, are not
refused for their keys. -/
theorem generated_keys_fresh {d : TableDefinition} (hnew : s.hasTable d.name = false)
    (hkey : (Table.ofDefinition d).primaryKey = some key) (hauto : (Table.ofDefinition d).autoIncrement = true)
    {ops : List Operation} (hops : ∀ op ∈ ops, op.Spares d.name key)
    (hcounter : ∀ t, (s.run (.create d :: ops)).tables.get? d.name = some t → t.nextId < 2 ^ 63) :
    (s.journal d.name key (.create d :: ops)).Pairwise (fun earlier later => later.Exceeds earlier) ∧
      (∀ e ∈ s.journal d.name key (.create d :: ops), e.generated = true → ∃ id : Int64, 0 < id ∧ e.key = .int id) ∧
      (((s.journal d.name key (.create d :: ops)).filter Entry.generated).map Entry.key).Nodup ∧
      ∃ t, (s.run (.create d :: ops)).tables.get? d.name = some t ∧
        (∀ values, t.lacksKey key values = true → t.nextId + 1 < 2 ^ 63 →
          ∀ e, (s.run (.create d :: ops)).insert d.name values = .error e → ¬ e.IsDuplicate) ∧
        ∀ columns rows, (∀ values ∈ rows, t.lacksKey key (Assoc.ofPairs (columns.zip values)) = true) →
          t.nextId + rows.length < 2 ^ 63 →
          ∀ e, (s.run (.create d :: ops)).insertAll d.name columns rows = .error e → ¬ e.IsDuplicate := by
  have hmade : s.step (.create d) = s.put d.name (.ofDefinition d) := by
    rw [step, perform, create, hnew]
    rfl
  have hempty : s.entered d.name key (.create d) = [] := by
    rw [entered]
    split
    next => rfl
    next => exact List.zipWith_nil_left
  have htable : (s.step (.create d)).tables.get? d.name = some (.ofDefinition d) := hmade ▸ Assoc.get?_insert_self _ _ _
  obtain ⟨t, ht, hahead⟩ := ahead_run htable (.ofDefinition hkey hauto) hops
  have hlast : t.nextId < 2 ^ 63 := hcounter t ht
  change (s.run (.create d :: ops)).tables.get? d.name = some t at ht
  rw [List.nil_append] at hahead
  rw [journal, hempty, List.nil_append]
  generalize (s.step (.create d)).journal d.name key ops = es at hahead ⊢
  generalize s.run (.create d :: ops) = s' at ht ⊢
  refine ⟨hahead.ledger.pairwise (by decide) hlast, fun e he hgenerated => ?_, ?_, t, ht, ?_, ?_⟩
  · obtain ⟨id, hid, hle⟩ := hahead.ledger.exists_of_generated (by decide) hlast he hgenerated
    exact ⟨id, Int64.lt_iff_toInt_lt.2 (Int.lt_of_lt_of_le Int.zero_lt_one hle), hid⟩
  · exact Ledger.nodup_generated (hahead.ledger.pairwise (by decide) hlast)
  · intro values hvalues hnext e hi
    exact hahead.not_isDuplicate_of_insert hvalues hnext (error_of_put ht hi)
  · intro columns rows hrows hnext e hi
    exact hahead.not_isDuplicate_of_insertAll hrows hnext (error_of_put ht hi)

end Store

namespace Sample

/-- People are added with keys of every form, a key is refused, names change, and after all of them are removed
another one is added. -/
def numberingPeople : List Store.Operation :=
  [.insert "people" [("name", .text "Ada")],
    .insert "people" [("id", .text "7"), ("name", .text "Bo")],
    .insertAll "people" ["id", "name"]
      [[.float (.ofInt 9), .text "Cy"], [.null, .text "Di"], [.text "x", .text "Ed"]],
    .insert "people" [("id", .text "10"), ("name", .text "Flo")],
    .update "people" [] [("name", .text "Gus")],
    .delete "people" [],
    .insert "people" [("name", .text "Hal")]]

/-- The keys of these people in the order in which they came. -/
theorem people_numbered :
    (Store.empty.journal "people" "id" (.create people :: numberingPeople)).map (fun e => (e.generated, e.key.key)) =
        [(true, some "1"), (false, some "7"), (false, some "9"), (true, some "10"), (false, some "x"),
          (true, some "11")] ∧
      (Store.empty.journal "people" "id" (.create people :: numberingPeople)).Pairwise
        (fun earlier later => later.Exceeds earlier) ∧
      ∀ e, (Store.empty.run (.create people :: numberingPeople)).insert "people" [("name", .text "Ida")] = .error e →
        ¬ e.IsDuplicate := by
  have hops : ∀ op ∈ numberingPeople, op.Spares "people" "id" := by
    simp [numberingPeople, Store.Operation.Spares, Assoc.keys]
  have hmade : ((Store.empty.run (.create people :: numberingPeople)).tables.get? "people").map
      (fun t => (t.nextId, t.lacksKey "id" [("name", .text "Ida")])) = some (12, true) := by decide +kernel
  have htable : ∀ t, (Store.empty.run (.create people :: numberingPeople)).tables.get? "people" = some t →
      t.nextId = 12 ∧ t.lacksKey "id" [("name", .text "Ida")] = true := by
    intro t ht
    rw [ht] at hmade
    exact Prod.mk.inj (Option.some.inj hmade)
  obtain ⟨hpairwise, -, -, t, ht, hinsert, -⟩ := Store.generated_keys_fresh (s := .empty) (d := people) rfl rfl rfl hops
    fun t ht => by rw [(htable t ht).1]; decide
  obtain ⟨hnext, hlacks⟩ := htable t ht
  exact ⟨by decide +kernel, hpairwise, hinsert [("name", .text "Ida")] hlacks (by rw [hnext]; decide)⟩

/-- Things with a number that has a default. -/
def things : TableDefinition :=
  ⟨"things", none, [⟨"id", .id, false, some (.int 5), true, false, false⟩]⟩

/-- A default fills in the key, so nothing is generated, and a second row without a key is refused. -/
theorem defaulted_key_refused :
    (Table.ofDefinition things).primaryKey = some "id" ∧
      (Table.ofDefinition things).autoIncrement = true ∧
      (Store.empty.run [.create things]).insert "things" [] =
        .ok (.int 5, Store.empty.run [.create things, .insert "things" []]) ∧
      (Store.empty.run [.create things, .insert "things" []]).insert "things" [] =
        .error (.constraint (.duplicateKey "things" "id" "5")) :=
  ⟨rfl, rfl, rfl, rfl⟩

end Sample

end DataModel

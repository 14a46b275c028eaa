import DataModel.Proofs.Convergence
import DataModel.Proofs.Operation
import DataModel.Proofs.Preparation

/-!
# A model keeps the constraints of its table

The store does not look at the rows that it changes, so the constraints of a table rest on what a model asks
for. Every command of a model is made of inserts, of changes that set no primary key and no null where there
must be none, and of removals. So in the table that is made for a model no primary key is null or stands
twice, and no column that is not nullable has a null, after every run of commands (`Handle.intact_of_run`);
and no command changes the primary key of a row.
-/

namespace DataModel

namespace Handle

/-- All that can be done with a model: the operations, removing rows for good, and making the table anew. -/
inductive Command where
  | plain (op : Operation)
  | destroy (id : Value)
  | destroyWhere (q : Descriptor)
  | remake

namespace Command

/-- Whether a command may remove rows. -/
def removes (m : Model) : Command → Bool
  | .plain (.delete _ _) | .plain (.deleteWhere _ _) => !m.marksDeleted
  | .plain _ => false
  | .destroy _ | .destroyWhere _ | .remake => true

/-- Whether a command brings the table in line. -/
def isMigration : Command → Bool
  | .plain op => op.isMigration
  | .remake => true
  | .destroy _ | .destroyWhere _ => false

/-- The rows that a command sets cells by. -/
def rows : Command → List Record
  | .plain (.save _ row) | .plain (.update _ _ row) | .plain (.updateWhere _ _ row) => [row]
  | .plain (.eachSave _ rows _) => rows
  | _ => []

/-- Whether no such row has a key twice. -/
def Distinct (c : Command) : Prop :=
  ∀ row ∈ c.rows, Assoc.Distinct row

end Command

/-- The store after a command. -/
def storeUnder (h : Handle) : Command → Store
  | .plain op => h.storeAfter op
  | .destroy id => h.settled (h.destroy id)
  | .destroyWhere q => h.settled (h.destroyWhere q)
  | .remake => h.settled (h.migrate true)

/-- The handle after a command. -/
def obey (h : Handle) (c : Command) : Handle :=
  { h with library := { h.library with store := h.storeUnder c } }

/-- The handle after several commands. -/
def obeyAll (h : Handle) (commands : List Command) : Handle :=
  commands.foldl obey h

end Handle

namespace Table

variable {t t' : Table} {op : Store.Operation}

theorem Makes.sound (h : t.Makes op t') (hs : t.Sound) : t'.Sound := by
  cases h with
  | alter h => exact hs.alter h
  | insert h => exact hs.insert h
  | insertAll h => exact hs.insertAll h
  | update h => exact hs.update h
  | delete h => exact hs.delete h

end Table

namespace Model

/-- The operations of the store that the commands of a model are made of. Rows are removed only by commands that may
remove rows. -/
inductive Issues (m : Model) (removes : Bool) : Store.Operation → Prop
  | insert (values : Record) : Issues m removes (.insert m.tableName values)
  | insertAll (columns : List String) (rows : List (List Value)) :
      Issues m removes (.insertAll m.tableName columns rows)
  | update (filter : List Where) {values : Record} (h : m.MaySet values) :
      Issues m removes (.update m.tableName filter values)
  | delete (filter : List Where) (h : removes = true) : Issues m removes (.delete m.tableName filter)

/-- Whether a store comes from another by one operation of a model. -/
def Performs (m : Model) (removes : Bool) (s s' : Store) : Prop :=
  ∃ op, m.Issues removes op ∧ s.perform op = .ok s'

end Model

namespace Handle

variable {h : Handle} {removes : Bool}

theorem create_performs {s : Surroundings} {row : Record} {id : Value} {s' : Store}
    (hc : h.create s row = .ok (id, s')) : h.model.Performs removes h.library.store s' := by
  obtain ⟨values, -, hc⟩ := bind_eq_ok_iff.1 hc
  exact ⟨_, .insert values, bind_eq_ok_iff.2 ⟨_, Library.ofStore_eq_ok_iff.1 hc, rfl⟩⟩

theorem insert_performs {columns : List String} {rows : List (List Value)} {n : Nat} {s' : Store}
    (hi : h.insert columns rows = .ok (n, s')) : h.model.Performs removes h.library.store s' := by
  obtain ⟨-, hi⟩ := check_bind_eq_ok_iff.1 hi
  obtain ⟨-, hi⟩ := check_bind_eq_ok_iff.1 hi
  exact ⟨_, .insertAll columns rows, bind_eq_ok_iff.2 ⟨_, Library.ofStore_eq_ok_iff.1 hi, rfl⟩⟩

theorem destroyWhere_performs {q : Descriptor} {n : Nat} {s' : Store}
    (hd : h.destroyWhere q = .ok (n, s')) : h.model.Performs true h.library.store s' := by
  obtain ⟨filter, -, hd⟩ := bind_eq_ok_iff.1 hd
  exact ⟨_, .delete filter rfl, bind_eq_ok_iff.2 ⟨_, Library.ofStore_eq_ok_iff.1 hd, rfl⟩⟩

theorem distinct_withDefaults {index : Nat} {defaults row : Record} (h : Assoc.Distinct row) :
    Assoc.Distinct (withDefaults index defaults row) :=
  List.foldlRecOn (motive := Assoc.Distinct) defaults _ h fun row hrow e _ => by
    split
    · exact hrow
    · exact hrow.insert _ _

section

variable (hm : h.model.Coherent) (hkey : h.model.primaryKey ∉ [createdAt, updatedAt, deletedAt])
include hm hkey

theorem updateWhere_performs {s : Surroundings} {q : Descriptor} {row : Record} {n : Nat} {s' : Store}
    (hrow : Assoc.Distinct row) (hu : h.updateWhere s q row = .ok (n, s')) :
    Relation.ReflGen (h.model.Performs removes) h.library.store s' := by
  obtain ⟨values, hvalues, hu⟩ := bind_eq_ok_iff.1 hu
  have hmay := hm.maySet_of_prepare hkey (hrow.not_mem_keys_erase _) hvalues
  split at hu
  · exact snd_eq_of_ok hu ▸ .refl
  · obtain ⟨filter, -, hu⟩ := bind_eq_ok_iff.1 hu
    exact .single ⟨_, .update filter hmay, bind_eq_ok_iff.2 ⟨_, Library.ofStore_eq_ok_iff.1 hu, rfl⟩⟩

theorem save_performs {s : Surroundings} {row : Record} {id : Value} {s' : Store} (hrow : Assoc.Distinct row)
    (hs : h.save s row = .ok (id, s')) : Relation.ReflGen (h.model.Performs removes) h.library.store s' := by
  unfold save at hs
  split at hs
  · obtain ⟨⟨n, store⟩, hu, hs⟩ := bind_eq_ok_iff.1 hs
    rw [snd_eq_of_ok hs]
    exact updateWhere_performs hm hkey (hrow.erase _) hu
  · exact .single (create_performs hs)

omit hm in
theorem deleteWhere_performs {now : String} {q : Descriptor} {n : Nat} {s' : Store}
    (hd : h.deleteWhere now q = .ok (n, s')) :
    h.model.Performs (!h.model.marksDeleted) h.library.store s' := by
  unfold deleteWhere at hd
  split at hd
  next =>
    obtain ⟨filter, -, hd⟩ := bind_eq_ok_iff.1 hd
    have hmay : h.model.MaySet [(deletedAt, .text now)] :=
      (Model.MaySet.empty h.model).insert (fun he => hkey (by rw [← he]; decide)) now
    exact ⟨_, .update filter hmay, bind_eq_ok_iff.2 ⟨_, Library.ofStore_eq_ok_iff.1 hd, rfl⟩⟩
  next hmarks =>
    rw [Bool.eq_false_iff.2 hmarks]
    exact destroyWhere_performs hd

/-- Saving several rows is a row of such operations, also when one of them fails. -/
theorem eachSaveFrom_performs {s : Nat → Surroundings} {defaults : Record} {index : Nat} {rows : List Record}
    (hrows : ∀ row ∈ rows, Assoc.Distinct row) :
    Relation.ReflTransGen (h.model.Performs removes) h.library.store (h.eachSaveFrom s defaults index rows).2 := by
  induction rows generalizing h index with
  | nil => exact .refl
  | cons row rows ih =>
    rw [List.forall_mem_cons] at hrows
    unfold eachSaveFrom
    split
    next => exact .refl
    next id store hs =>
      have hfirst : Relation.ReflTransGen (h.model.Performs removes) h.library.store store :=
        (save_performs hm hkey (distinct_withDefaults hrows.1) hs).to_reflTransGen
      have hrest := @ih { h with library := { h.library with store } } hm hkey (index + 1) hrows.2
      split
      next heq => rw [heq] at hrest; exact hfirst.trans hrest
      next heq => rw [heq] at hrest; exact hfirst.trans hrest

/-- What a command other than a migration can do. -/
theorem obey_performs {c : Command} (hc : c.Distinct) (hmigrate : c.isMigration = false) :
    Relation.ReflTransGen (h.model.Performs (c.removes h.model)) h.library.store (h.obey c).library.store := by
  cases c with
  | plain op =>
    cases op with
    | get q => exact .refl
    | find id q => exact .refl
    | count q => exact .refl
    | paginate q page size => exact .refl
    | create s row => exact settled_cases (fun _ _ hr => .single (create_performs hr)) .refl
    | save s row =>
      exact settled_cases (fun _ _ hr => (save_performs hm hkey (hc row List.mem_cons_self) hr).to_reflTransGen) .refl
    | update s id row =>
      exact settled_cases
        (fun _ _ hr => (updateWhere_performs hm hkey (hc row List.mem_cons_self) hr).to_reflTransGen) .refl
    | updateWhere s q row =>
      exact settled_cases
        (fun _ _ hr => (updateWhere_performs hm hkey (hc row List.mem_cons_self) hr).to_reflTransGen) .refl
    | eachSave s rows defaults => exact eachSaveFrom_performs hm hkey hc
    | insert columns rows => exact settled_cases (fun _ _ hr => .single (insert_performs hr)) .refl
    | delete now id => exact settled_cases (fun _ _ hr => .single (deleteWhere_performs hkey hr)) .refl
    | deleteWhere now q => exact settled_cases (fun _ _ hr => .single (deleteWhere_performs hkey hr)) .refl
    | migrate => cases hmigrate
  | destroy id => exact settled_cases (fun _ _ hr => .single (destroyWhere_performs hr)) .refl
  | destroyWhere q => exact settled_cases (fun _ _ hr => .single (destroyWhere_performs hr)) .refl
  | remake => cases hmigrate

end

end Handle

namespace Model

variable {m : Model} {removes : Bool}

/-- Whether the table of a model is as it was made, and its rows are as it declares. -/
structure Fits (m : Model) (t : Table) : Prop where
  columns : t.columns = m.liveColumns
  primary : t.primaryKey = some m.primaryKey
  sound : t.Sound
  constrained : t.Constrained

theorem Coherent.fits_made (hm : m.Coherent) : m.Fits (.ofDefinition m.table) where
  columns := rfl
  primary := hm.primaryKey_made
  sound := Table.sound_ofDefinition m.table
  constrained := Table.constrained_ofDefinition m.table

/-- A column that is not nullable has no null in the table of the model, and neither has the primary key. -/
theorem Fits.neverNull {t : Table} (h : m.Fits t) {c : Column} (hc : c ∈ m.columns)
    (hnull : c.name = m.primaryKey ∨ c.nullable = false) : t.NeverNull c.name := by
  have hlive : LiveColumn.ofDefinition (m.definition c) ∈ t.columns := by
    rw [h.columns]
    exact List.mem_map_of_mem (List.mem_map_of_mem hc)
  exact m.name_definition c ▸ h.constrained.nulls _ hlive (nullable_definition.2 hnull)

theorem Fits.mayWrite {t : Table} (h : m.Fits t) {values : Record} (hmay : m.MaySet values) :
    t.MayWrite values := by
  refine ⟨fun l hl hnull e he hname => ?_, fun key hkey => ?_⟩
  · rw [h.columns] at hl
    obtain ⟨d, hd, rfl⟩ := List.mem_map.1 hl
    obtain ⟨c, hc, rfl⟩ := List.mem_map.1 hd
    have hec : e.1 = c.name := hname.trans (m.name_definition c)
    have hne : c.name ≠ m.primaryKey := fun hprimary => hmay.key (hprimary ▸ hec ▸ List.mem_map_of_mem he)
    have hdefined : (m.definition c).nullable = c.nullable := by
      rw [definition, if_neg hne]
      rfl
    exact hmay.nulls c hc (hdefined ▸ hnull) e he hec
  · rw [← Option.some.inj (h.primary.symm.trans hkey)]
    exact hmay.key

/-- The operations of a model keep its table as it was made and its rows as it declares. -/
theorem Fits.makes {t t' : Table} {op : Store.Operation} (h : m.Fits t) (hop : m.Issues removes op)
    (hmakes : t.Makes op t') : m.Fits t' := by
  have hlawful : t.Lawful op := by
    cases hop with
    | update filter hmay => exact h.mayWrite hmay
    | _ => trivial
  have hsame : t'.emptied = t.emptied := hmakes.emptied (by cases hop <;> exact fun _ _ he => by cases he)
  have hcolumns : t'.columns = t.columns := by simpa using congrArg Table.columns hsame
  have hprimary : t'.primaryKey = t.primaryKey := by simpa using congrArg Table.primaryKey hsame
  exact ⟨hcolumns.trans h.columns, hprimary.trans h.primary, hmakes.sound h.sound,
    hmakes.constrained hlawful h.sound h.constrained⟩

/-- Whether the table of a model is there and fits the model. -/
structure FitsIn (m : Model) (s : Store) : Prop where
  distinct : Assoc.Distinct s.tables
  table : ∃ t, s.tables.get? m.tableName = some t ∧ m.Fits t

variable {s s' : Store}

theorem Issues.target {op : Store.Operation} (hop : m.Issues removes op) : op.target = m.tableName := by
  cases hop <;> rfl

theorem FitsIn.put (hd : Assoc.Distinct s.tables) {t : Table} (ht : m.Fits t) : m.FitsIn (s.put m.tableName t) :=
  ⟨hd.insert _ _, t, Assoc.get?_insert_self _ _ _, ht⟩

theorem Performs.fitsIn (h : m.Performs removes s s') (hs : m.FitsIn s) : m.FitsIn s' := by
  obtain ⟨op, hop, hp⟩ := h
  obtain ⟨t, ht, hfits⟩ := hs.table
  obtain ⟨d, rfl, -⟩ | ⟨name, rfl, -⟩ | ⟨t₀, t', ht₀, hmakes, rfl⟩ := Store.perform_cases hp
  · cases hop
  · cases hop
  · rw [hop.target] at ht₀ ⊢
    rw [← Option.some.inj (ht.symm.trans ht₀)] at hmakes
    exact .put hs.distinct (hfits.makes hop hmakes)

/-- An operation that removes no row leaves every row its primary key, in its place. -/
theorem Performs.keys (h : m.Performs false s s') :
    (s.rowsOf m.tableName).map (fun row => row.cell m.primaryKey) <+:
      (s'.rowsOf m.tableName).map fun row => row.cell m.primaryKey := by
  obtain ⟨op, hop, hp⟩ := h
  cases hop with
  | insert values =>
    obtain ⟨⟨id, s''⟩, hi, hp⟩ := bind_eq_ok_iff.1 hp
    obtain ⟨row, hrows⟩ := Store.rowsOf_insert hi
    rw [ok_eq_ok_iff.1 hp, hrows, List.map_append]
    exact List.prefix_append _ _
  | insertAll columns rows =>
    obtain ⟨⟨n, s''⟩, hi, hp⟩ := bind_eq_ok_iff.1 hp
    obtain ⟨built, hrows⟩ := Store.rowsOf_insertAll hi
    rw [ok_eq_ok_iff.1 hp, hrows, List.map_append]
    exact List.prefix_append _ _
  | @update filter values hmay =>
    obtain ⟨⟨n, s''⟩, hu, hp⟩ := bind_eq_ok_iff.1 hp
    have hkeys : ((s.rowsOf m.tableName).map fun row => if row.passes filter then row.extend values else row).map
        (fun row : Record => row.cell m.primaryKey) = (s.rowsOf m.tableName).map fun row => row.cell m.primaryKey := by
      rw [List.map_map]
      refine List.map_congr_left fun row _ => ?_
      rw [Function.comp_apply]
      split
      · exact Record.cell_congr (Assoc.get?_extend_of_not_mem hmay.key)
      · rfl
    have hrows := congrArg (List.map fun row : Record => row.cell m.primaryKey) (Store.rowsOf_update hu)
    rw [ok_eq_ok_iff.1 hp]
    exact (hrows.trans hkeys).symm ▸ List.prefix_rfl
  | delete filter hremoves => cases hremoves

theorem FitsIn.performs_all (h : Relation.ReflTransGen (m.Performs removes) s s') (hs : m.FitsIn s) : m.FitsIn s' := by
  induction h with
  | refl => exact hs
  | tail _ hstep ih => exact hstep.fitsIn ih

theorem keys_performs_all (h : Relation.ReflTransGen (m.Performs false) s s') :
    (s.rowsOf m.tableName).map (fun row => row.cell m.primaryKey) <+:
      (s'.rowsOf m.tableName).map fun row => row.cell m.primaryKey := by
  induction h with
  | refl => exact List.prefix_rfl
  | tail _ hstep ih => exact ih.trans hstep.keys

/-- A table that was made for the model is left alone. -/
theorem Coherent.migrate_made (hm : m.Coherent) (hs : m.FitsIn s) : ∃ report, m.migrate s false = .ok (report, s) := by
  obtain ⟨t, ht, hfits⟩ := hs.table
  exact ⟨_, migrate_settled ht (by rw [hfits.columns]; exact hm.diff_made)⟩

theorem hasTable_drop (hd : Assoc.Distinct s.tables) (name : String) : (s.drop name).hasTable name = false := by
  rw [Store.hasTable, Assoc.has, Store.drop, Assoc.get?_eq_none_iff.2 (hd.not_mem_keys_erase name)]
  rfl

/-- A table that is made anew is as the model declares. -/
theorem Coherent.fitsIn_remade (hm : m.Coherent) (hd : Assoc.Distinct s.tables) :
    ∃ report s', m.migrate s true = .ok (report, s') ∧ m.FitsIn s' := by
  exact ⟨_, _, migrate_missing (hasTable_drop hd m.tableName), .put (hd.erase _) hm.fits_made⟩

end Model

namespace Handle

variable {h : Handle}

/-- A model over a store without tables. -/
def blank (registry : Registry) (m : Model) : Handle :=
  ⟨⟨registry, .empty⟩, m⟩

/-- The primary keys of the stored rows. -/
def keys (h : Handle) : List Value :=
  h.stored.map fun row => row.cell h.model.primaryKey

/-- What holds of the stored rows of a model: no two have the same primary key, none has a null one, and none has a
null under a column that is not nullable. -/
structure Intact (h : Handle) : Prop where
  table : h.library.store.hasTable h.model.tableName = true
  distinct : (h.keys.filterMap Value.key).Nodup
  present : ∀ row ∈ h.stored, row.isNullAt h.model.primaryKey = false
  nulls : ∀ c ∈ h.model.columns, c.nullable = false → ∀ row ∈ h.stored, row.isNullAt c.name = false

theorem intact_of_fitsIn (hm : h.model.Coherent) (hs : h.model.FitsIn h.library.store) : h.Intact := by
  obtain ⟨t, ht, hfits⟩ := hs.table
  have hrows : h.stored = t.rows := Library.rowsOf_eq ht
  refine ⟨by rw [Store.hasTable, Assoc.has, ht]; rfl, ?_, fun row hrow => ?_, fun c hc hnull row hrow => ?_⟩
  · rw [keys, hrows, List.filterMap_map, Function.comp_def, ← funext (Table.keyAt_eq h.model.primaryKey)]
    exact hfits.constrained.keys _ hfits.primary
  · obtain ⟨c, hc, hname⟩ := List.mem_map.1 hm.primary
    exact hname ▸ hfits.neverNull hc (Or.inl hname) row (hrows ▸ hrow)
  · exact hfits.neverNull hc (Or.inr hnull) row (hrows ▸ hrow)

section

variable (hm : h.model.Coherent) (hkey : h.model.primaryKey ∉ [createdAt, updatedAt, deletedAt])
include hm hkey

omit hkey in
/-- A migration finds nothing to do. -/
theorem obey_migrate (hs : h.model.FitsIn h.library.store) :
    (h.obey (.plain .migrate)).library.store = h.library.store := by
  obtain ⟨report, hsame⟩ := hm.migrate_made hs
  change h.settled (h.model.migrate h.library.store false) = _
  rw [hsame]
  rfl

omit hkey in
theorem obey_remake (hd : Assoc.Distinct h.library.store.tables) :
    h.model.FitsIn (h.obey .remake).library.store := by
  obtain ⟨report, s', hmade, hs'⟩ := hm.fitsIn_remade hd
  change h.model.FitsIn (h.settled (h.model.migrate h.library.store true))
  rw [hmade]
  exact hs'

/-- No command spoils the table of a model. -/
theorem obey_fitsIn {c : Command} (hc : c.Distinct) (hs : h.model.FitsIn h.library.store) :
    h.model.FitsIn (h.obey c).library.store := by
  cases hmigrate : c.isMigration with
  | false => exact hs.performs_all (obey_performs hm hkey hc hmigrate)
  | true =>
    cases c with
    | plain op =>
      cases op with
      | migrate => exact obey_migrate hm hs ▸ hs
      | _ => cases hmigrate
    | remake => exact obey_remake hm hs.distinct
    | destroy id => cases hmigrate
    | destroyWhere q => cases hmigrate

/-- A command that does not remove rows leaves every row its primary key, in its place. -/
theorem obey_keys {c : Command} (hc : c.Distinct) (hs : h.model.FitsIn h.library.store)
    (hremoves : c.removes h.model = false) : h.keys <+: (h.obey c).keys := by
  cases hmigrate : c.isMigration with
  | false => exact Model.keys_performs_all (hremoves ▸ obey_performs hm hkey hc hmigrate)
  | true =>
    cases c with
    | plain op =>
      cases op with
      | migrate =>
        change _ <+: ((h.obey (.plain .migrate)).library.store.rowsOf h.model.tableName).map _
        rw [obey_migrate hm hs]
        exact List.prefix_rfl
      | _ => cases hmigrate
    | remake => cases hremoves
    | destroy id => cases hmigrate
    | destroyWhere q => cases hmigrate

/-- Every run of commands keeps the table of a model. -/
theorem obeyAll_fitsIn {commands : List Command} (hrows : ∀ c ∈ commands, c.Distinct)
    (hs : h.model.FitsIn h.library.store) :
    (h.obeyAll commands).model = h.model ∧ h.model.FitsIn (h.obeyAll commands).library.store := by
  induction commands generalizing h with
  | nil => exact ⟨rfl, hs⟩
  | cons c commands ih =>
    rw [List.forall_mem_cons] at hrows
    exact ih (h := h.obey c) hm hkey hrows.2 (obey_fitsIn hm hkey hrows.1 hs)

end

/-- The first migration makes the table. -/
theorem obey_blank {registry : Registry} {m : Model} (hm : m.Coherent) {first : Command}
    (hfirst : first = .plain .migrate ∨ first = .remake) : m.FitsIn ((blank registry m).obey first).library.store := by
  have hempty : Assoc.Distinct Store.empty.tables := List.nodup_nil
  rcases hfirst with rfl | rfl
  · have hmade := Model.migrate_missing (m := m) (s := .empty) rfl
    change m.FitsIn ((blank registry m).settled (m.migrate .empty false))
    rw [hmade]
    exact .put hempty hm.fits_made
  · exact obey_remake (h := blank registry m) hm hempty

/-- A model that is read from a document keeps its table from the first migration on, whatever is asked of it and
whatever fails: no two rows have the same primary key, none has a null one, and none has a null under a column that
is not nullable. A command that does not remove rows leaves every row its primary key, in its place. -/
theorem intact_of_run {name source : String} {declared : Metadata} {m : Model}
    (hresolve : Model.resolve name source declared = .ok m)
    (hkey : m.primaryKey ∉ [createdAt, updatedAt, deletedAt]) (registry : Registry) {first : Command}
    (hfirst : first = .plain .migrate ∨ first = .remake) {commands : List Command}
    (hrows : ∀ c ∈ commands, c.Distinct) :
    ((blank registry m).obeyAll (first :: commands)).Intact ∧
      ∀ c : Command, c.Distinct → c.removes m = false →
        ((blank registry m).obeyAll (first :: commands)).keys <+:
          (((blank registry m).obeyAll (first :: commands)).obey c).keys := by
  have hm := Model.coherent_of_resolved hresolve
  obtain ⟨hmodel, hs⟩ := obeyAll_fitsIn (h := (blank registry m).obey first) hm hkey hrows (obey_blank hm hfirst)
  change ((blank registry m).obeyAll (first :: commands)).model = m at hmodel
  change m.FitsIn ((blank registry m).obeyAll (first :: commands)).library.store at hs
  generalize (blank registry m).obeyAll (first :: commands) = h at hmodel hs ⊢
  subst hmodel
  exact ⟨intact_of_fitsIn hm hs, fun c hc hremoves => obey_keys hm hkey hc hs hremoves⟩

end Handle

namespace Sample

/-- Two people are added. Then a null for the name, a text that stands for a null, and a key that is there already
are refused, one of the people gets another name, and one is deleted. -/
def changingPeople : List Handle.Command :=
  [.plain (.create ⟨"2025-01-01", [], 4⟩ [("name", .text "Ada"), ("notes", .text "[]")]),
    .plain (.create ⟨"2025-01-01", [], 4⟩ [("id", .int 7), ("name", .text "Bo"), ("notes", .text "{}")]),
    .plain (.update ⟨"2025-01-02", [], 4⟩ (.int 1) [("name", .null)]),
    .plain (.update ⟨"2025-01-02", [], 4⟩ (.int 1) [("notes", .text "null")]),
    .plain (.insert ["id", "name", "notes"] [[.text "7", .text "Cy", .text ""]]),
    .plain (.save ⟨"2025-01-03", [], 4⟩ [("id", .int 7), ("name", .text "Di")]),
    .plain (.delete "2025-01-04" (.int 1))]

/-- The people keep their keys through all of it, and through whatever comes after and removes no row. -/
theorem people_intact :
    ((Handle.blank ⟨[]⟩ person).obeyAll (.plain .migrate :: changingPeople)).Intact ∧
      ∀ c : Handle.Command, c.Distinct → c.removes person = false →
        [.int 1, .int 7] <+: (((Handle.blank ⟨[]⟩ person).obeyAll (.plain .migrate :: changingPeople)).obey c).keys := by
  have hrows : ∀ c ∈ changingPeople, ∀ row ∈ c.rows, (Assoc.keys row).Nodup := by decide
  exact Handle.intact_of_run resolve_person (by decide) ⟨[]⟩ (Or.inl rfl) hrows

end Sample

end DataModel

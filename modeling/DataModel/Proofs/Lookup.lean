import DataModel.Proofs.RoundTrip
import DataModel.Proofs.Sample

/-!
# Looking for a row by its key

The condition on the key is put in front of the filter of a request, and the guard against deleted rows around both.
However the filter is joined, the rows that are sought are those with the key that pass the filter by itself and are
not deleted, and the first of them in the order of the request is found, whatever the window of the request. None is
found exactly when there is none, as long as the store has a table to look in. The operations that write by key go by
the same condition, so they leave every row alone that has another key.
-/

namespace DataModel

namespace Store

variable {s s' s'' : Store} {name : String} {spared : Record → Prop}

/-- Whether a store comes from another by changing and removing rows of one table, but none of certain rows. -/
def Spares (s s' : Store) (name : String) (spared : Record → Prop) : Prop :=
  (∀ other, other ≠ name → s'.tables.get? other = s.tables.get? other) ∧
    ∃ change : Record → Option Record, (∀ row, spared row → change row = some row) ∧
      s'.rowsOf name = (s.rowsOf name).filterMap change

theorem Spares.refl (s : Store) (name : String) (spared : Record → Prop) : s.Spares s name spared :=
  ⟨fun _ _ => rfl, some, fun _ _ => rfl, List.filterMap_some.symm⟩

theorem Spares.put (s : Store) {t : Table} (change : Record → Option Record)
    (hrows : t.rows = (s.rowsOf name).filterMap change)
    (hspared : ∀ row, spared row → change row = some row) : s.Spares (s.put name t) name spared := by
  refine ⟨fun other hother => Assoc.get?_insert_of_ne hother.symm, change, hspared, ?_⟩
  rw [rowsOf_put, hrows]

/-- To set cells of the rows that pass a filter spares the others. -/
theorem spares_update {filter : List Where} {values : Record} {n : Nat} (h : s.update name filter values = .ok (n, s'))
    (hspared : ∀ row, spared row → row.passes filter = false) : s.Spares s' name spared := by
  obtain ⟨t, t', ht, hu, rfl⟩ := exists_put h
  obtain ⟨-, rfl⟩ := Table.eq_of_update hu
  refine .put s (fun row => some (if row.passes filter then row.extend values else row)) ?_ fun row hrow => ?_
  · rw [rowsOf, ht, List.filterMap_eq_map']
  · simp [hspared row hrow]

/-- To remove the rows that pass a filter spares the others. -/
theorem spares_delete {filter : List Where} {n : Nat} (h : s.delete name filter = .ok (n, s'))
    (hspared : ∀ row, spared row → row.passes filter = false) : s.Spares s' name spared := by
  obtain ⟨t, t', ht, hd, rfl⟩ := exists_put h
  obtain rfl := Table.eq_of_delete hd
  refine .put s (Option.guard fun row => !row.passes filter) ?_ fun row hrow => ?_
  · rw [rowsOf, ht, List.filterMap_eq_filter]
  · simp [hspared row hrow]

end Store

theorem Descriptor.columnsFor_of_no_loads {q : Descriptor} (hwiths : q.withs = []) (m : Model) :
    q.columnsFor m = q.select := by
  rw [columnsFor, neededKeys, hwiths, Model.withKeys_eq]
  split
  next hnone => exact hnone.symm
  next => exact List.append_nil _

namespace Handle

variable {h : Handle} {id : Value} {q : Descriptor}

/-- Whether a stored row is one that is looked for: it has the key, it passes the filter of the request by itself, and
it is not deleted, unless deleted rows are asked for. -/
def Sought (h : Handle) (id : Value) (q : Descriptor) (row : Record) : Prop :=
  Operator.eq.holds (row.cell h.model.primaryKey) id = true ∧ row.passes q.wheres = true ∧
    (h.model.marksDeleted = true → q.withTrashed = false → row.isNullAt deletedAt = true)

instance (h : Handle) (id : Value) (q : Descriptor) : DecidablePred (h.Sought id q) := fun _ =>
  inferInstanceAs (Decidable (_ ∧ _ ∧ (_ → _ → _)))

/-- The first row that is sought, in the order of the request. -/
def firstSought? (h : Handle) (id : Value) (q : Descriptor) : Option Record :=
  (Record.sortedBy q.orders (h.stored.filter fun row => decide (h.Sought id q row))).head?

/-- Whether the request for a row can be answered: every column in it is one of the model, and the store has a table
with these columns. -/
def CanSeek (h : Handle) (id : Value) (q : Descriptor) : Prop :=
  ∃ selection rows, h.model.selection (h.seeking id q) [] = .ok selection ∧
    h.library.store.select h.model.tableName selection = .ok rows

/-- The filter that is built for a key lets through the rows that are sought. -/
theorem admits_seeking_iff {row : Record} : h.model.admits (h.seeking id q) row = true ↔ h.Sought id q row := by
  rw [admits_seeking, Bool.and_eq_true, Library.admits_iff]
  exact Iff.rfl

/-- The request for a row can be answered when its rows can be read. -/
theorem canSeek_iff (hwiths : q.withs = []) :
    h.CanSeek id q ↔ ∃ t, h.library.store.tables.get? h.model.tableName = some t ∧
      h.model.CanAsk t (h.seeking id q) := by
  have hkeys : (h.seeking id q).neededKeys h.model = [] := by
    rw [Descriptor.neededKeys, show (h.seeking id q).withs = [] from hwiths]
    rfl
  have hread : h.CanSeek id q ↔ ∃ rows, h.library.read h.model (h.seeking id q) = .ok rows := by
    simp only [CanSeek, Library.read, hkeys, bind_eq_ok_iff, Library.ofStore_eq_ok_iff]
    exact exists_comm.trans (exists_congr fun _ => exists_congr fun _ => Iff.rfl)
  rw [hread]
  simp only [Library.read_eq_ok_iff]
  constructor
  · rintro ⟨rows, t, ht, hcan, -⟩
    exact ⟨t, ht, hcan⟩
  · rintro ⟨t, ht, hcan⟩
    exact ⟨_, t, ht, hcan, rfl⟩

/-- In the window for one row is the first one that is sought. -/
theorem found_eq_firstSought (h : Handle) (id : Value) (q : Descriptor) :
    h.library.found h.model (h.seeking id q) = (h.firstSought? id q).toList := by
  have hadmits : h.model.admits (h.seeking id q) = fun row => decide (h.Sought id q row) := by
    funext row
    rw [Bool.eq_iff_iff, admits_seeking_iff, decide_eq_true_iff]
  change (Record.sortedBy q.orders (h.stored.filter (h.model.admits (h.seeking id q)))).take 1 = _
  rw [hadmits, List.take_one]
  rfl

/-- The rows of a request are refused for a column or by the store, but not because there are none. -/
theorem read_ne_notFound (l : Library) (m : Model) (q : Descriptor) (name text : String) :
    l.read m q ≠ .error (.notFound name text) := by
  intro hread
  rcases bind_eq_error_iff.1 hread with hselection | ⟨selection, -, hstore⟩
  · obtain ⟨column, -, he⟩ := Model.failsWith_selection m q _ _ hselection
    cases he
  · cases hs : l.store.select m.tableName selection with
    | ok rows => simp [hs, Library.ofStore] at hstore
    | error e => simp [hs, Library.ofStore] at hstore

/-- A row is not found exactly when the request has no rows. -/
theorem find_eq_notFound_iff (hwiths : q.withs = []) {name text : String} :
    h.find id q = .error (.notFound name text) ↔
      (name = h.model.name ∧ text = id.display) ∧ h.library.read h.model (h.seeking id q) = .ok [] := by
  have hget : h.get (h.seeking id q) = h.library.read h.model (h.seeking id q) := Library.run_of_no_loads hwiths
  constructor
  · intro hfind
    rcases bind_eq_error_iff.1 hfind with hread | ⟨rows, hread, hnone⟩
    · exact absurd (hget.symm.trans hread) (read_ne_notFound _ _ _ _ _)
    · cases rows with
      | cons row rest => cases hnone
      | nil =>
        cases hnone
        exact ⟨⟨rfl, rfl⟩, hget.symm.trans hread⟩
  · rintro ⟨⟨rfl, rfl⟩, hread⟩
    exact bind_eq_error_iff.2 (Or.inr ⟨[], hget.trans hread, rfl⟩)

/-- There is a first row that is sought unless there is none. -/
theorem firstSought?_eq_none_iff : h.firstSought? id q = none ↔ ∀ row ∈ h.stored, ¬ h.Sought id q row := by
  rw [firstSought?, List.head?_eq_none_iff, ← List.perm_nil]
  constructor
  · intro hnone row hrow hsought
    have hkept : row ∈ h.stored.filter fun row => decide (h.Sought id q row) :=
      List.mem_filter.2 ⟨hrow, decide_eq_true hsought⟩
    exact List.not_mem_nil (hnone.mem_iff.1 ((Record.perm_sortedBy _ _).mem_iff.2 hkept))
  · intro hnone
    have hempty : (h.stored.filter fun row => decide (h.Sought id q row)) = [] :=
      List.filter_eq_nil_iff.2 fun row hrow => by simpa using hnone row hrow
    rw [hempty]
    exact Record.perm_sortedBy _ _

/-- The rows of the request for a key, when it can be answered. -/
theorem read_seeking_iff (hwiths : q.withs = []) {rows : List Record} :
    h.library.read h.model (h.seeking id q) = .ok rows ↔
      h.CanSeek id q ∧ rows = (h.firstSought? id q).toList.map (Table.project q.select) := by
  have hcolumns : (h.seeking id q).columnsFor h.model = q.select := Descriptor.columnsFor_of_no_loads hwiths h.model
  rw [Library.read_eq_ok_iff, canSeek_iff hwiths, found_eq_firstSought, hcolumns]
  constructor
  · rintro ⟨t, ht, hcan, hrows⟩
    exact ⟨⟨t, ht, hcan⟩, hrows⟩
  · rintro ⟨⟨t, ht, hcan⟩, hrows⟩
    exact ⟨t, ht, hcan, hrows⟩

/-- When the store has a table for the model, the request for a row can be answered as soon as the request itself names
columns of the model only. -/
theorem canSeek_iff_of_covered (hcovered : h.model.CoveredIn h.library.store)
    (hkey : h.model.hasColumn h.model.primaryKey = true) :
    h.CanSeek id q ↔ ∃ selection, h.model.selection q [] = .ok selection := by
  have hwheres : (∀ c ∈ Table.columnsOfAll (h.seeking id q).wheres, h.model.hasColumn c = true) ↔
      ∀ c ∈ Table.columnsOfAll q.wheres, h.model.hasColumn c = true := by
    constructor
    · exact fun hall c hc => hall c (Model.mem_columnsOfAll_narrowed.2 (Or.inr hc))
    · intro hall c hc
      rcases Model.mem_columnsOfAll_narrowed.1 hc with rfl | hc
      · exact hkey
      · exact hall c hc
  constructor
  · rintro ⟨selection, rows, hs, -⟩
    obtain ⟨hselect, horders, f, hf, -⟩ := Model.selection_eq_ok_iff.1 hs
    refine ⟨_, Model.selection_eq_ok_iff.2 ⟨hselect, horders, _, Model.filter_eq_ok_iff.2 ⟨?_, rfl⟩, rfl⟩⟩
    exact hwheres.1 (Model.filter_eq_ok_iff.1 hf).1
  · rintro ⟨selection, hs⟩
    obtain ⟨hselect, horders, f, hf, -⟩ := Model.selection_eq_ok_iff.1 hs
    obtain ⟨f', hf'⟩ : ∃ f', h.model.filter (h.seeking id q) = .ok f' :=
      ⟨_, Model.filter_eq_ok_iff.2 ⟨hwheres.2 (Model.filter_eq_ok_iff.1 hf).1, rfl⟩⟩
    have hseek : h.model.selection (h.seeking id q) [] = .ok ⟨_, f', q.orders, some 1, none⟩ :=
      Model.selection_eq_ok_iff.2 ⟨hselect, horders, f', hf', rfl⟩
    -- what is handed to the store names columns of the model, and the table has them
    obtain ⟨hcolumns, hordered, hfilter⟩ := Model.names_selection hseek nofun
    obtain ⟨t, ht, hhas⟩ := hcovered
    refine ⟨_, _, hseek, Library.select_eq_ok_iff.2 ⟨t, ht, Table.select_eq_ok_iff.2 ⟨?_, ?_, ?_, rfl⟩⟩⟩
    · exact fun c hc => hhas c (hfilter c hc)
    · exact fun c hc => hhas c (hcolumns c hc)
    · exact fun o ho => hhas _ (hordered o ho)

/-- What comes of looking for a row. -/
structure FindsByKey (h : Handle) (id : Value) (q : Descriptor) : Prop where
  /-- What is found is made of the first row that is sought. -/
  found : ∀ row, h.find id q = .ok row ↔
    h.CanSeek id q ∧ ∃ stored, h.firstSought? id q = some stored ∧ row = Table.project q.select stored
  /-- The first row that is sought is stored and sought, and the first of them in the order of the request. -/
  first : ∀ stored, h.firstSought? id q = some stored → stored ∈ h.stored ∧ h.Sought id q stored ∧
    (Record.Ranked q.orders (h.stored.filter fun row => decide (h.Sought id q row)) →
      Record.IsFirst q.orders (h.stored.filter fun row => decide (h.Sought id q row)) stored)
  /-- None is found exactly when none is sought. -/
  notFound : ∀ name text, h.find id q = .error (.notFound name text) ↔
    (name = h.model.name ∧ text = id.display) ∧ h.CanSeek id q ∧ ∀ row ∈ h.stored, ¬ h.Sought id q row
  /-- With a table for the model, to be answered is to name columns of the model only. -/
  compiled : h.model.CoveredIn h.library.store → h.model.hasColumn h.model.primaryKey = true →
    (h.CanSeek id q ↔ ∃ selection, h.model.selection q [] = .ok selection)

theorem findsByKey (h : Handle) (id : Value) (hwiths : q.withs = []) : h.FindsByKey id q where
  found row := by
    rw [find_eq_ok_iff_head? hwiths]
    simp only [read_seeking_iff hwiths]
    constructor
    · rintro ⟨rows, ⟨hcan, rfl⟩, hfirst⟩
      rw [List.head?_map, Option.head?_toList, Option.map_eq_some_iff] at hfirst
      obtain ⟨stored, hstored, rfl⟩ := hfirst
      exact ⟨hcan, stored, hstored, rfl⟩
    · rintro ⟨hcan, stored, hstored, rfl⟩
      exact ⟨_, ⟨hcan, rfl⟩, by rw [hstored]; rfl⟩
  first stored hstored := by
    have hmem := (Record.perm_sortedBy _ _).mem_iff.1 (List.mem_of_head? hstored)
    obtain ⟨hin, hsought⟩ := List.mem_filter.1 hmem
    exact ⟨hin, of_decide_eq_true hsought, fun hranked => Record.isFirst_of_sortedBy hranked hstored⟩
  notFound name text := by
    rw [find_eq_notFound_iff hwiths, read_seeking_iff hwiths, ← firstSought?_eq_none_iff]
    refine and_congr_right fun _ => and_congr_right fun _ => ?_
    cases h.firstSought? id q with
    | none => simp
    | some stored => simp
  compiled := canSeek_iff_of_covered

/-- Whether a row has another key. -/
def OtherKey (h : Handle) (id : Value) (row : Record) : Prop :=
  Operator.eq.holds (row.cell h.model.primaryKey) id = false

/-- A filter that begins with a key keeps the rows out that have another. -/
theorem passes_eq_false_of_otherKey {f : List Where} (hwheres : q.wheres = (h.byId id .empty).wheres)
    (hf : h.model.filter q = .ok f) {row : Record} (hother : h.OtherKey id row) : row.passes f = false := by
  have hkeyed : row.passes q.wheres = (Operator.eq.holds (row.cell h.model.primaryKey) id && true) := by
    rw [hwheres]
    exact Record.passes_narrowed row .empty h.model.primaryKey .eq id
  rw [Model.passes_filter hf, Model.admits, hkeyed, hother]
  rfl

theorem spares_settled {α : Type} {result : Except ModelError (α × Store)} {spared : Record → Prop}
    (hok : ∀ a s', result = .ok (a, s') → h.library.store.Spares s' h.model.tableName spared) :
    h.library.store.Spares (h.settled result) h.model.tableName spared := by
  unfold settled
  split
  next a s' => exact hok a s' rfl
  next => exact .refl _ _ _

section

variable (hwheres : q.wheres = (h.byId id .empty).wheres)
include hwheres

theorem spares_updateWhere (sur : Surroundings) (row : Record) :
    h.library.store.Spares (h.settled (h.updateWhere sur q row)) h.model.tableName (h.OtherKey id) := by
  refine spares_settled fun n s' hu => ?_
  obtain ⟨values, -, hu⟩ := bind_eq_ok_iff.1 hu
  split at hu
  · rw [snd_eq_of_ok hu]
    exact .refl _ _ _
  · obtain ⟨f, hf, hu⟩ := bind_eq_ok_iff.1 hu
    exact Store.spares_update (Library.ofStore_eq_ok_iff.1 hu) fun row => passes_eq_false_of_otherKey hwheres hf

theorem spares_destroyWhere :
    h.library.store.Spares (h.settled (h.destroyWhere q)) h.model.tableName (h.OtherKey id) := by
  refine spares_settled fun n s' hd => ?_
  obtain ⟨f, hf, hd⟩ := bind_eq_ok_iff.1 hd
  have hsame : q.includingTrashed.wheres = (h.byId id .empty).wheres := hwheres
  exact Store.spares_delete (Library.ofStore_eq_ok_iff.1 hd) fun row => passes_eq_false_of_otherKey hsame hf

theorem spares_deleteWhere (now : String) :
    h.library.store.Spares (h.settled (h.deleteWhere now q)) h.model.tableName (h.OtherKey id) := by
  by_cases hm : h.model.marksDeleted = true
  · refine spares_settled fun n s' hd => ?_
    rw [deleteWhere, if_pos hm] at hd
    obtain ⟨f, hf, hd⟩ := bind_eq_ok_iff.1 hd
    exact Store.spares_update (Library.ofStore_eq_ok_iff.1 hd) fun row => passes_eq_false_of_otherKey hwheres hf
  · rw [deleteWhere, if_neg hm]
    exact spares_destroyWhere hwheres

end

/-- Whether the operations that write by key leave every row with another key alone, and every other table. -/
structure WritesByKey (h : Handle) (id : Value) : Prop where
  update : ∀ (sur : Surroundings) (row : Record),
    h.library.store.Spares (h.settled (h.update sur id row)) h.model.tableName (h.OtherKey id)
  delete : ∀ now : String,
    h.library.store.Spares (h.settled (h.delete now id)) h.model.tableName (h.OtherKey id)
  destroy : h.library.store.Spares (h.settled (h.destroy id)) h.model.tableName (h.OtherKey id)

theorem writesByKey (h : Handle) (id : Value) : h.WritesByKey id where
  update := spares_updateWhere rfl
  delete := spares_deleteWhere rfl
  destroy := spares_destroyWhere rfl

/-- The row that is found is the first one with the key that the request admits by itself, whatever its window and
however its filter is joined. None is found exactly when there is none, provided that the request can be answered. No
row with another key is touched by what is written by key. -/
theorem sought_row_found (h : Handle) (id : Value) (q : Descriptor) (hwiths : q.withs = []) :
    h.FindsByKey id q ∧ h.WritesByKey id :=
  ⟨h.findsByKey id hwiths, h.writesByKey id⟩

end Handle

namespace Sample

/-- The authors of the library. -/
def authorHandle : Handle :=
  ⟨library, author⟩

/-- A request for the names of some authors, with OR at the head of its filter and a window that holds none. -/
def namesRequest : Descriptor :=
  { Descriptor.empty with
    select := ["name"]
    wheres := [.group .or [.leaf .or "name" .eq (.text "Bo")], .leaf .or "name" .eq (.text "Cy")]
    orders := [⟨"name", .desc⟩]
    limit := some 0
    offset := some 5 }

/-- Of the two authors that the filter lets through the one with the key is found, and the deleted one is not. -/
theorem author_found_by_key :
    namesRequest.withs = [] ∧ authorHandle.find (.int 3) namesRequest = .ok [("name", .text "Cy")] ∧
      authorHandle.find (.int 2) namesRequest = .error (.notFound "author" "2") ∧
      authorHandle.WritesByKey (.int 2) := by
  obtain ⟨hthird, -⟩ := Handle.sought_row_found authorHandle (.int 3) namesRequest rfl
  obtain ⟨hsecond, hwrites⟩ := Handle.sought_row_found authorHandle (.int 2) namesRequest rfl
  have hnone : ∀ row ∈ authorHandle.stored, ¬ authorHandle.Sought (.int 2) namesRequest row := by decide
  refine ⟨rfl, ?_, ?_, hwrites⟩
  · exact (hthird.found _).2 ⟨⟨_, _, rfl, rfl⟩, [("id", .int 3), ("name", .text "Cy"), ("deleted_at", .null)], rfl, rfl⟩
  · exact (hsecond.notFound _ _).2 ⟨⟨rfl, rfl⟩, ⟨_, _, rfl, rfl⟩, hnone⟩

/-- Without a table the failure is another one, though the request names columns of the model only and there is no row
with the key. -/
theorem no_table_is_no_row_missing :
    ¬ ∀ (h : Handle) (id : Value) (q : Descriptor), q.withs = [] →
      (h.find id q = .error (.notFound h.model.name id.display) ↔
        (∃ selection, h.model.selection (h.seeking id q) [] = .ok selection) ∧
          ∀ row ∈ h.stored, ¬ h.Sought id q row) := by
  intro hall
  have hfind := (hall ⟨⟨.empty, .empty⟩, author⟩ (.int 1) .empty rfl).2 ⟨⟨_, rfl⟩, nofun⟩
  cases hfind

end Sample

end DataModel

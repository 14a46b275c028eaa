import DataModel.Proofs.Filter
import DataModel.Proofs.Sorting

/-!
# Reading the rows of a request

The rows of a request before its eager-loads: the stored rows that it admits, in order, in its window and with
its columns. They can be read exactly when every column that the request names is one of the model and of the
table: `Library.read_eq_ok_iff`.
-/

namespace DataModel

namespace Table

theorem checkColumns_eq_ok_iff {t : Table} {name : String} {columns : List String} :
    t.checkColumns name columns = .ok () ↔ ∀ c ∈ columns, t.hasColumn c = true := by
  induction columns with
  | nil => simp [checkColumns]
  | cons c columns ih =>
    rw [checkColumns, List.forall_mem_cons]
    by_cases h : t.hasColumn c = true
    · rw [if_pos h, ih]
      simp [h]
    · simp [h]

theorem select_eq_ok_iff {t : Table} {name : String} {s : Selection} {rows : List Record} :
    t.select name s = .ok rows ↔
      (∀ c ∈ columnsOfAll s.filter, t.hasColumn c = true) ∧ (∀ c ∈ s.columns, t.hasColumn c = true) ∧
        (∀ o ∈ s.orders, t.hasColumn o.column = true) ∧
        rows = (window s.offset s.limit (Record.sortedBy s.orders (t.matching s.filter))).map
          (project s.columns) := by
  simp only [select, checkFilter, check_bind_eq_ok_iff, checkColumns_eq_ok_iff, List.forall_mem_map,
    ok_eq_ok_iff]

theorem window_sublist {α : Type} (offset limit : Option UInt64) (items : List α) :
    (window offset limit items).Sublist items := by
  unfold window
  cases limit with
  | none => exact List.drop_sublist _ _
  | some n => exact (List.take_sublist _ _).trans (List.drop_sublist _ _)

theorem mem_window {α : Type} {offset limit : Option UInt64} {items : List α} {a : α}
    (h : a ∈ window offset limit items) : a ∈ items :=
  (window_sublist offset limit items).subset h

end Table

namespace Descriptor

/-- The columns that the rows of a request have before its eager-loads; none stands for all. -/
def columnsFor (q : Descriptor) (m : Model) : List String :=
  Model.withKeys q.select (q.neededKeys m)

/-- What a row of a request holds under a name that is no column of the model: when no columns are asked
for, a row brings all that is stored. -/
def kept (q : Descriptor) (name : String) (source : Record) : Option Value :=
  if q.select = [] then source.get? name else none

end Descriptor

namespace Model

theorem foldl_withKeys (columns keys : List String) :
    keys.foldl (fun cs k => if cs.contains k then cs else cs ++ [k]) columns =
      columns ++ (keys.filter fun k => !columns.contains k).eraseDups := by
  induction keys generalizing columns with
  | nil => simp
  | cons k keys ih =>
    rw [List.foldl_cons, ih, List.filter_cons]
    cases h : columns.contains k with
    | true => simp
    | false =>
      simp only [Bool.false_eq_true, if_false, Bool.not_false, if_true, List.eraseDups_cons,
        List.append_assoc, List.singleton_append, List.filter_filter]
      congr 3
      refine List.filter_congr fun c _ => ?_
      simp [Bool.and_comm, beq_eq_decide]

/-- The columns of a request: none when none are asked for, and otherwise the missing keys after them,
each once. -/
theorem withKeys_eq (columns keys : List String) :
    withKeys columns keys =
      if columns = [] then [] else columns ++ (keys.filter fun k => !columns.contains k).eraseDups := by
  unfold withKeys
  cases columns with
  | nil => rfl
  | cons c columns => exact foldl_withKeys (c :: columns) keys

theorem mem_withKeys {columns keys : List String} {k : String} (h : k ∈ keys) :
    withKeys columns keys = [] ∨ k ∈ withKeys columns keys := by
  rw [withKeys_eq]
  by_cases hc : columns = []
  · exact Or.inl (if_pos hc)
  · rw [if_neg hc, List.mem_append, List.mem_eraseDups, List.mem_filter]
    by_cases hk : k ∈ columns
    · exact Or.inr (Or.inl hk)
    · exact Or.inr (Or.inr ⟨h, by simpa using hk⟩)

end Model

namespace Descriptor

/-- The columns of a request hold the local key of every relation that it loads. -/
theorem localKey_mem_columnsFor {q : Descriptor} {m : Model} {load : String × With Descriptor} {r : Relation}
    (hload : load ∈ q.withs) (hr : m.relation? (relationName load) = some r) :
    q.columnsFor m = [] ∨ r.localKey ∈ q.columnsFor m :=
  Model.mem_withKeys (List.mem_filterMap.2 ⟨load, hload, by rw [hr]; rfl⟩)

end Descriptor

namespace Model

theorem hasColumn_ne {m : Model} {c d : String} (hc : m.hasColumn c = false) (hd : m.hasColumn d = true) :
    c ≠ d := by
  rintro rfl
  rw [hc] at hd
  cases hd

/-- Whether a model and its table have every column that a request names. -/
structure CanAsk (m : Model) (t : Table) (q : Descriptor) : Prop where
  select : ∀ c ∈ q.select, m.hasColumn c = true
  orders : ∀ o ∈ q.orders, m.hasColumn o.column = true
  wheres : ∀ c ∈ Table.columnsOfAll q.wheres, m.hasColumn c = true
  selected : ∀ c ∈ q.columnsFor m, t.hasColumn c = true
  ordered : ∀ o ∈ q.orders, t.hasColumn o.column = true
  filtered : ∀ c ∈ Table.columnsOfAll q.wheres, t.hasColumn c = true
  marked : m.guards q = true → t.hasColumn deletedAt = true

/-- The table has every column that the filter of such a request names, the mark of deleted rows included. -/
theorem CanAsk.hasColumn_filter {m : Model} {t : Table} {q : Descriptor} {f : List Where} (h : m.CanAsk t q)
    (hf : m.filter q = .ok f) : ∀ c ∈ Table.columnsOfAll f, t.hasColumn c = true := by
  intro c hc
  rw [(filter_eq_ok_iff.1 hf).2] at hc
  split at hc
  next hg =>
    rcases mem_columnsOfAll_guarded.1 hc with hc | rfl
    · exact h.filtered c hc
    · exact h.marked hg
  next hg => exact h.filtered c hc

theorem selection_eq_ok_iff {m : Model} {q : Descriptor} {keys : List String} {s : Selection} :
    m.selection q keys = .ok s ↔
      (∀ c ∈ q.select, m.hasColumn c = true) ∧ (∀ o ∈ q.orders, m.hasColumn o.column = true) ∧
        ∃ f, m.filter q = .ok f ∧
          s = ⟨withKeys q.select keys, f, q.orders, q.limit, q.offset⟩ := by
  simp only [selection, check_bind_eq_ok_iff, forM_eq_ok_iff, checkColumn_eq_ok_iff]
  simp only [bind_eq_ok_iff, ok_eq_ok_iff]

end Model

/-- The stored rows of a table; none when there is no such table. -/
def Store.rowsOf (s : Store) (table : String) : List Record :=
  match s.tables.get? table with
  | some t => t.rows
  | none => []

namespace Library

/-- The stored rows of a table. -/
def rowsOf (l : Library) (table : String) : List Record :=
  l.store.rowsOf table

/-- The stored rows that a request finds, in order. -/
def found (l : Library) (m : Model) (q : Descriptor) : List Record :=
  Table.window q.offset q.limit (Record.sortedBy q.orders ((l.rowsOf m.tableName).filter (m.admits q)))

/-- The rows of a request before its eager-loads. -/
def read (l : Library) (m : Model) (q : Descriptor) : Except ModelError (List Record) := do
  let selection ← m.selection q (q.neededKeys m)
  ofStore (l.store.select m.tableName selection)

theorem ofStore_eq_ok_iff {α : Type} {x : Except StoreError α} {a : α} : ofStore x = .ok a ↔ x = .ok a := by
  cases x with
  | error e => exact ⟨nofun, nofun⟩
  | ok b => exact ⟨fun h => congrArg Except.ok (Except.ok.inj h), fun h => congrArg Except.ok (Except.ok.inj h)⟩

theorem table?_eq_ok_iff {s : Store} {name : String} {t : Table} :
    s.table? name = .ok t ↔ s.tables.get? name = some t := by
  unfold Store.table?
  cases s.tables.get? name with
  | none => exact ⟨nofun, nofun⟩
  | some u => exact ⟨fun h => congrArg some (Except.ok.inj h), fun h => congrArg Except.ok (Option.some.inj h)⟩

theorem rowsOf_eq {l : Library} {name : String} {t : Table} (h : l.store.tables.get? name = some t) :
    l.rowsOf name = t.rows := by
  rw [rowsOf, Store.rowsOf, h]

theorem select_eq_ok_iff {l : Library} {name : String} {s : Selection} {rows : List Record} :
    l.store.select name s = .ok rows ↔
      ∃ t, l.store.tables.get? name = some t ∧ t.select name s = .ok rows := by
  simp only [Store.select, bind_eq_ok_iff, table?_eq_ok_iff]

/-- The rows of a request can be read exactly when all its columns are there, and they are the stored
rows it finds with the columns it asks for. -/
theorem read_eq_ok_iff {l : Library} {m : Model} {q : Descriptor} {rows : List Record} :
    l.read m q = .ok rows ↔
      ∃ t, l.store.tables.get? m.tableName = some t ∧ m.CanAsk t q ∧
        rows = (l.found m q).map (Table.project (q.columnsFor m)) := by
  simp only [read, bind_eq_ok_iff, ofStore_eq_ok_iff, select_eq_ok_iff, Model.selection_eq_ok_iff,
    Table.select_eq_ok_iff]
  constructor
  · rintro ⟨s, ⟨hsel, hord, f, hf, rfl⟩, t, ht, hfil, hcol, hsort, rfl⟩
    have hguard := (Model.filter_eq_ok_iff.1 hf).2
    refine ⟨t, ht, ⟨hsel, hord, (Model.filter_eq_ok_iff.1 hf).1, hcol, hsort, ?_, ?_⟩, ?_⟩
    · intro c hc
      refine hfil c ?_
      rw [hguard]
      split
      · exact Model.mem_columnsOfAll_guarded.2 (Or.inl hc)
      · exact hc
    · -- the guard names the mark of deleted rows, so the store has checked it as well
      intro hg
      refine hfil deletedAt ?_
      rw [hguard, if_pos hg]
      exact Model.mem_columnsOfAll_guarded.2 (Or.inr rfl)
    · rw [found, rowsOf_eq ht, Table.matching, List.filter_congr fun r _ => Model.passes_filter hf r]
      rfl
  · rintro ⟨t, ht, hcan, rfl⟩
    obtain ⟨f, hf⟩ : ∃ f, m.filter q = .ok f := ⟨_, Model.filter_eq_ok_iff.2 ⟨hcan.wheres, rfl⟩⟩
    refine ⟨_, ⟨hcan.select, hcan.orders, f, hf, rfl⟩, t, ht, hcan.hasColumn_filter hf, hcan.selected,
      hcan.ordered, ?_⟩
    rw [found, rowsOf_eq ht, Table.matching, List.filter_congr fun r _ => Model.passes_filter hf r]
    rfl

/-- What a request finds stands in its order, as long as that compares the stored rows as a total preorder does. -/
theorem inOrder_found {l : Library} {m : Model} {q : Descriptor}
    (h : Record.Ranked q.orders (l.rowsOf m.tableName)) : Record.InOrder q.orders (l.found m q) :=
  (Record.inOrder_sortedBy (h.filter _)).sublist (Table.window_sublist q.offset q.limit _)

/-- What a request admits passes its filter, and is not deleted unless deleted rows are asked for. -/
theorem admits_iff {m : Model} {q : Descriptor} {row : Record} :
    m.admits q row = true ↔ row.passes q.wheres = true ∧
      (m.marksDeleted = true → q.withTrashed = false → row.isNullAt deletedAt = true) := by
  rw [Model.admits, Model.guards, Bool.and_eq_true]
  refine and_congr_right fun _ => ?_
  cases m.marksDeleted <;> cases q.withTrashed <;> simp

/-- What a request finds is stored, and the request admits it. -/
theorem mem_found {l : Library} {m : Model} {q : Descriptor} {row : Record} (h : row ∈ l.found m q) :
    row ∈ l.rowsOf m.tableName ∧ m.admits q row = true :=
  List.mem_filter.1 ((Record.perm_sortedBy _ _).mem_iff.1 (Table.mem_window h))

end Library

end DataModel

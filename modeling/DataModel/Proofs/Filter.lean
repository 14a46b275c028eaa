import DataModel.Proofs.Key

/-!
# What the filter of a request lets through

The filter that reaches the store is built around the one that was asked for: a condition is put in
front of it, and a guard against deleted rows behind it. Whatever the filter is, with OR at its top or
without any effective condition, a row passes the built one exactly when it passes the parts.
-/

namespace DataModel

theorem ok_eq_ok_iff {α ε : Type} {a b : α} : (.ok a : Except ε α) = .ok b ↔ b = a :=
  ⟨fun h => (Except.ok.inj h).symm, fun h => congrArg Except.ok h.symm⟩

theorem snd_eq_of_ok {α β ε : Type} {a a' : α} {b b' : β} (h : (.ok (a, b) : Except ε (α × β)) = .ok (a', b')) :
    b' = b :=
  congrArg Prod.snd (ok_eq_ok_iff.1 h)

/-- A computation after another succeeds when both do. -/
theorem bind_eq_ok_iff {α β ε : Type} {x : Except ε α} {f : α → Except ε β} {b : β} :
    x >>= f = .ok b ↔ ∃ a, x = .ok a ∧ f a = .ok b := by
  cases x with
  | error e => exact ⟨nofun, nofun⟩
  | ok a => exact ⟨fun h => ⟨a, rfl, h⟩, fun ⟨_, ha, h⟩ => by cases ha; exact h⟩

/-- A computation after another fails when one of them does. -/
theorem bind_eq_error_iff {α β ε : Type} {x : Except ε α} {f : α → Except ε β} {e : ε} :
    x >>= f = .error e ↔ x = .error e ∨ ∃ a, x = .ok a ∧ f a = .error e := by
  cases x with
  | error e' =>
    refine ⟨fun h => Or.inl (congrArg Except.error (Except.error.inj h)), ?_⟩
    rintro (h | ⟨a, ha, -⟩)
    · exact congrArg Except.error (Except.error.inj h)
    · cases ha
  | ok a =>
    refine ⟨fun h => Or.inr ⟨a, rfl, h⟩, ?_⟩
    rintro (h | ⟨a', ha, h⟩)
    · cases h
    · cases ha
      exact h

/-- A computation after a check succeeds when both do. -/
theorem check_bind_eq_ok_iff {β ε : Type} {x : Except ε Unit} {f : Unit → Except ε β} {b : β} :
    x >>= f = .ok b ↔ x = .ok () ∧ f () = .ok b := by
  rw [bind_eq_ok_iff]
  exact ⟨fun ⟨_, ha, h⟩ => ⟨ha, h⟩, fun ⟨ha, h⟩ => ⟨(), ha, h⟩⟩

/-- A list of checks passes when each of them does. -/
theorem forM_eq_ok_iff {α ε : Type} {f : α → Except ε Unit} {items : List α} :
    items.forM f = .ok () ↔ ∀ a ∈ items, f a = .ok () := by
  induction items with
  | nil => exact ⟨fun _ a ha => by simp at ha, fun _ => rfl⟩
  | cons a items ih =>
    rw [List.forall_mem_cons, ← ih]
    change (f a >>= fun _ => items.forM f) = _ ↔ _
    cases f a with
    | error e => exact ⟨nofun, nofun⟩
    | ok u => exact ⟨fun h => ⟨rfl, h⟩, fun h => h.2⟩

/-- When a list is mapped, each of its items is. -/
theorem exists_of_mapM_eq_ok {α β ε : Type} {f : α → Except ε β} {items : List α} {results : List β}
    (h : items.mapM f = .ok results) {a : α} (ha : a ∈ items) : ∃ b ∈ results, f a = .ok b := by
  induction items generalizing results with
  | nil => simp at ha
  | cons c items ih =>
    rw [List.mapM_cons, bind_eq_ok_iff] at h
    obtain ⟨b, hb, h⟩ := h
    obtain ⟨rest, hrest, h⟩ := bind_eq_ok_iff.1 h
    have hresults : results = b :: rest := ok_eq_ok_iff.1 h
    rw [hresults]
    rcases List.mem_cons.1 ha with rfl | ha
    · exact ⟨b, List.mem_cons_self, hb⟩
    · obtain ⟨d, hd, hf⟩ := ih hrest ha
      exact ⟨d, List.mem_cons_of_mem _ hd, hf⟩

/-- When a list is mapped, each result is that of an item. -/
theorem exists_of_mem_mapM {α β ε : Type} {f : α → Except ε β} {items : List α} {results : List β}
    (h : items.mapM f = .ok results) {b : β} (hb : b ∈ results) : ∃ a ∈ items, f a = .ok b := by
  induction items generalizing results with
  | nil =>
    rw [List.mapM_nil] at h
    rw [ok_eq_ok_iff.1 h] at hb
    exact absurd hb List.not_mem_nil
  | cons a items ih =>
    rw [List.mapM_cons, bind_eq_ok_iff] at h
    obtain ⟨first, hfirst, h⟩ := h
    obtain ⟨rest, hrest, h⟩ := bind_eq_ok_iff.1 h
    rw [ok_eq_ok_iff.1 h] at hb
    rcases List.mem_cons.1 hb with rfl | hb
    · exact ⟨a, List.mem_cons_self, hfirst⟩
    · obtain ⟨a', ha', hf⟩ := ih hrest hb
      exact ⟨a', List.mem_cons_of_mem _ ha', hf⟩

namespace Where

@[simp] theorem verdicts?_nil (row : Record) (soFar : Option Bool) : verdicts? row soFar [] = soFar := by
  rw [verdicts?]

theorem verdicts?_compare (row : Record) (soFar : Option Bool) (column : String) (op : Operator)
    (value : Value) (ws : List Where) :
    verdicts? row soFar (.compare column op value :: ws) =
      verdicts? row (some (Conjunction.and.join soFar (op.holds (row.cell column) value))) ws := by
  simp only [compare, verdicts?, verdict?, method]

theorem verdicts?_grouped (row : Record) (soFar : Option Bool) (inner ws : List Where) :
    verdicts? row soFar (.grouped inner :: ws) =
      match verdicts? row none inner with
      | some b => verdicts? row (some (Conjunction.and.join soFar b)) ws
      | none => verdicts? row soFar ws := by
  cases h : verdicts? row none inner <;> simp only [grouped, verdicts?, verdict?, method, h]

end Where

namespace Record

@[simp] theorem passes_nil (row : Record) : row.passes [] = true := rfl

/-- A condition in front of a filter is a condition more. -/
theorem passes_narrowed (row : Record) (q : Descriptor) (column : String) (op : Operator) (value : Value) :
    row.passes (q.narrowed (.compare column op value)).wheres =
      (op.holds (row.cell column) value && row.passes q.wheres) := by
  simp only [passes, Descriptor.narrowed, Where.verdicts?_compare, Conjunction.join]
  cases hw : q.wheres with
  | nil => simp
  | cons w ws =>
    simp only [List.isEmpty_cons, Bool.false_eq_true, if_false, Where.verdicts?_grouped]
    cases Where.verdicts? row none (w :: ws) with
    | none => simp
    | some b => simp [Conjunction.join]

/-- The guard keeps deleted rows out and changes nothing else. -/
theorem passes_guarded (row : Record) (ws : List Where) :
    row.passes (Model.guarded ws) = (row.passes ws && row.isNullAt deletedAt) := by
  have hg : Operator.isNull.holds (row.cell deletedAt) .null = row.isNullAt deletedAt :=
    isNull_cell row deletedAt
  simp only [passes, Model.guarded]
  cases ws with
  | nil => simp [Model.notDeleted, Where.verdicts?_compare, Conjunction.join, hg]
  | cons w ws =>
    simp only [List.isEmpty_cons, Bool.false_eq_true, if_false, Where.verdicts?_grouped]
    -- a filter may consist of empty groups only, and then it has no verdict
    cases Where.verdicts? row none (w :: ws) with
    | none => simp [Model.notDeleted, Where.verdicts?_compare, Conjunction.join, hg]
    | some b => simp [Model.notDeleted, Where.verdicts?_compare, Conjunction.join, hg]

end Record

namespace Model

/-- Whether the rows of a request are kept free of deleted ones. -/
def guards (m : Model) (q : Descriptor) : Bool :=
  m.marksDeleted && !q.withTrashed

/-- Whether a stored row is one that a request may find, whatever its window. -/
def admits (m : Model) (q : Descriptor) (row : Record) : Bool :=
  row.passes q.wheres && (!m.guards q || row.isNullAt deletedAt)

theorem checkColumn_eq_ok_iff {m : Model} {column : String} :
    m.checkColumn column = .ok () ↔ m.hasColumn column = true := by
  unfold checkColumn
  by_cases h : m.hasColumn column = true <;> simp [h]

mutual

theorem checkWhere_eq_ok_iff (m : Model) (w : Where) :
    m.checkWhere w = .ok () ↔ ∀ c ∈ Table.columnsOf w, m.hasColumn c = true := by
  cases w with
  | leaf method column op value => simp [checkWhere, Table.columnsOf, checkColumn_eq_ok_iff]
  | group method wheres => rw [checkWhere, Table.columnsOf, checkWheres_eq_ok_iff m wheres]

/-- A filter is fit for a model when every column it names is one of the model's. -/
theorem checkWheres_eq_ok_iff (m : Model) (ws : List Where) :
    m.checkWheres ws = .ok () ↔ ∀ c ∈ Table.columnsOfAll ws, m.hasColumn c = true := by
  cases ws with
  | nil => simp [checkWheres, Table.columnsOfAll]
  | cons w ws =>
    have hw := checkWhere_eq_ok_iff m w
    have hs := checkWheres_eq_ok_iff m ws
    rw [checkWheres, Table.columnsOfAll, List.forall_mem_append, ← hw, ← hs]
    cases m.checkWhere w with
    | error e => simp
    | ok u => simp

end

theorem filter_eq_ok_iff {m : Model} {q : Descriptor} {f : List Where} :
    m.filter q = .ok f ↔ (∀ c ∈ Table.columnsOfAll q.wheres, m.hasColumn c = true) ∧
      f = if m.guards q then guarded q.wheres else q.wheres := by
  unfold filter
  rw [← checkWheres_eq_ok_iff]
  cases m.checkWheres q.wheres with
  | error e => exact ⟨nofun, nofun⟩
  | ok u => exact ⟨fun h => ⟨rfl, (Except.ok.inj h).symm⟩, fun h => congrArg Except.ok h.2.symm⟩

/-- The filter of a request lets through exactly the rows that the request admits. -/
theorem passes_filter {m : Model} {q : Descriptor} {f : List Where} (h : m.filter q = .ok f) (row : Record) :
    row.passes f = m.admits q row := by
  rw [(filter_eq_ok_iff.1 h).2, admits]
  cases m.guards q with
  | true => rw [if_pos rfl, Record.passes_guarded]; simp
  | false => simp

/-- The columns named by a guarded filter are those of the filter and the mark of deleted rows. -/
theorem mem_columnsOfAll_guarded {ws : List Where} {c : String} :
    c ∈ Table.columnsOfAll (guarded ws) ↔ c ∈ Table.columnsOfAll ws ∨ c = deletedAt := by
  cases ws with
  | nil => simp [guarded, notDeleted, Where.compare, Table.columnsOfAll, Table.columnsOf]
  | cons w ws =>
    simp [guarded, notDeleted, Where.compare, Where.grouped, Table.columnsOfAll, Table.columnsOf, or_assoc]

/-- The columns named by a narrowed filter are those of the filter and the one of the condition. -/
theorem mem_columnsOfAll_narrowed {q : Descriptor} {column c : String} {op : Operator} {value : Value} :
    c ∈ Table.columnsOfAll (q.narrowed (.compare column op value)).wheres ↔
      c = column ∨ c ∈ Table.columnsOfAll q.wheres := by
  unfold Descriptor.narrowed
  cases hw : q.wheres with
  | nil => simp [Where.compare, Table.columnsOfAll, Table.columnsOf]
  | cons w ws => simp [Where.compare, Where.grouped, Table.columnsOfAll, Table.columnsOf]

/-- A request for keys admits the rows that the request admits and whose key is among them. -/
theorem admits_forKeys {m : Model} {q : Descriptor} {column : String} {keys : List Value} {row : Record}
    (hk : ∀ v ∈ keys, v.isKeyCell = true) (hc : m.admits q row = true → (row.cell column).isKeyCell = true) :
    m.admits (q.forKeys column keys) row = (m.admits q row && Stitch.isKeyed column keys row) := by
  have ha : m.admits (q.forKeys column keys) row =
      (Operator.isIn.holds (row.cell column) (.list keys) && m.admits q row) := by
    rw [admits, Descriptor.forKeys, Descriptor.selecting, Record.passes_narrowed, admits, Bool.and_assoc]
    rfl
  rw [ha]
  cases h : m.admits q row with
  | false => simp
  | true => rw [Stitch.holds_isIn (hc h) hk, Bool.and_true, Bool.true_and]

end Model

end DataModel

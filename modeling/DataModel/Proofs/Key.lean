import DataModel.Proofs.Numeral
import DataModel.Proofs.Record

/-! Rows are matched by the texts of their keys, and fetched by comparing the keys themselves. On integers the two
agree: different integers have different texts. -/

namespace DataModel

namespace Value

/-- Whether a value is an integer or null. -/
def isKeyCell : Value → Bool
  | null | int _ => true
  | _ => false

theorem isKeyCell_cases {v : Value} (h : v.isKeyCell = true) : v = null ∨ ∃ n, v = int n := by
  cases v with
  | null => exact Or.inl rfl
  | int n => exact Or.inr ⟨n, rfl⟩
  | bool b => simp [isKeyCell] at h
  | float x => simp [isKeyCell] at h
  | text s => simp [isKeyCell] at h
  | list items => simp [isKeyCell] at h
  | map entries => simp [isKeyCell] at h

/-- Among integers and null the key tells which value it is. -/
theorem eq_of_key {v w : Value} {k : String} (hv : v.isKeyCell = true) (hw : w.isKeyCell = true)
    (hvk : v.key = some k) (hwk : w.key = some k) : v = w := by
  obtain rfl | ⟨a, rfl⟩ := isKeyCell_cases hv
  · simp [key] at hvk
  obtain rfl | ⟨b, rfl⟩ := isKeyCell_cases hw
  · simp [key] at hwk
  rw [key, Option.some.injEq] at hvk hwk
  rw [Numeral.int64Text_injective (hvk.trans hwk.symm)]

theorem looseEq_int (a b : Int64) : (int a).looseEq (int b) = decide (a = b) := by
  rw [Bool.eq_iff_iff, decide_eq_true_iff]
  simp only [looseEq, rank, order, and_self, if_true, decide_eq_true_eq, Option.some.injEq]
  rw [Int.compare_eq_eq, Int64.toInt_inj]

end Value

namespace Stitch

/-- Whether the key of a row in a column is among some values. -/
def isKeyed (column : String) (keys : List Value) (row : Record) : Bool :=
  (keyAt column row).any fun k => keys.any fun v => v.key = some k

theorem isKeyed_iff {column : String} {keys : List Value} {row : Record} :
    isKeyed column keys row = true ↔ ∃ k, keyAt column row = some k ∧ ∃ v ∈ keys, v.key = some k := by
  simp [isKeyed, Option.any_eq_true]

theorem isKeyed_nil (column : String) (row : Record) : isKeyed column [] row = false := by
  simp [isKeyed]

theorem isKeyed_congr {column : String} {keys : List Value} {row other : Record}
    (h : keyAt column row = keyAt column other) : isKeyed column keys row = isKeyed column keys other := by
  rw [isKeyed, h, isKeyed]

theorem isKeyed_singleton {column : String} {v : Value} {k : String} (hv : v.key = some k) (row : Record) :
    isKeyed column [v] row = decide (keyAt column row = some k) := by
  rw [isKeyed]
  cases keyAt column row with
  | none => simp
  | some j =>
    by_cases h : j = k
    · simp [hv, h]
    · simp [hv, h, Ne.symm h]

/-- Whether the keys of some values are among those of others. -/
def KeysAmong (keys' keys : List Value) : Prop :=
  ∀ v ∈ keys', ∃ w ∈ keys, w.key = v.key

theorem KeysAmong.refl (keys : List Value) : KeysAmong keys keys :=
  fun v hv => ⟨v, hv, rfl⟩

theorem KeysAmong.trans {keys keys' keys'' : List Value} (h : KeysAmong keys'' keys')
    (h' : KeysAmong keys' keys) : KeysAmong keys'' keys := by
  intro v hv
  obtain ⟨w, hw, hwk⟩ := h v hv
  obtain ⟨u, hu, huk⟩ := h' w hw
  exact ⟨u, hu, huk.trans hwk⟩

theorem KeysAmong.eq_nil {keys : List Value} (h : KeysAmong keys []) : keys = [] := by
  refine List.eq_nil_iff_forall_not_mem.2 fun v hv => ?_
  obtain ⟨w, hw, -⟩ := h v hv
  simp at hw

theorem isKeyed_mono {column : String} {keys keys' : List Value} {row : Record}
    (h : KeysAmong keys' keys) (hk : isKeyed column keys' row = true) : isKeyed column keys row = true := by
  obtain ⟨k, hrow, v, hv, hvk⟩ := isKeyed_iff.1 hk
  obtain ⟨w, hw, hwk⟩ := h v hv
  exact isKeyed_iff.2 ⟨k, hrow, w, hw, hwk.trans hvk⟩

/-- A value stands in the list of different keys when it has a key and none of those seen before. -/
theorem mem_distinctFrom {seen : List String} {vs : List Value} {v : Value}
    (h : v ∈ distinctFrom seen vs) : v ∈ vs ∧ v.key.isSome = true := by
  fun_induction distinctFrom seen vs with
  | case1 => simp at h
  | case2 seen w vs hk ih => exact ⟨List.mem_cons_of_mem _ (ih h).1, (ih h).2⟩
  | case3 seen w vs k hk hs ih => exact ⟨List.mem_cons_of_mem _ (ih h).1, (ih h).2⟩
  | case4 seen w vs k hk hs ih =>
    rcases List.mem_cons.1 h with rfl | h
    · exact ⟨List.mem_cons_self, by simp [hk]⟩
    · exact ⟨List.mem_cons_of_mem _ (ih h).1, (ih h).2⟩

/-- No key is lost: each one is that of a value in the list, unless it was seen before. -/
theorem exists_mem_distinctFrom {seen : List String} {vs : List Value} {v : Value} {k : String}
    (hv : v ∈ vs) (hk : v.key = some k) : k ∈ seen ∨ ∃ w ∈ distinctFrom seen vs, w.key = some k := by
  fun_induction distinctFrom seen vs with
  | case1 => simp at hv
  | case2 seen w vs hw ih =>
    rcases List.mem_cons.1 hv with rfl | hv
    · simp [hw] at hk
    · exact ih hv
  | case3 seen w vs j hw hs ih =>
    rcases List.mem_cons.1 hv with rfl | hv
    · rw [hw, Option.some.injEq] at hk
      exact Or.inl (by simpa [hk] using hs)
    · exact ih hv
  | case4 seen w vs j hw hs ih =>
    -- the first value with the key stands for all later ones
    by_cases hj : j = k
    · exact Or.inr ⟨w, List.mem_cons_self, by rw [hw, hj]⟩
    rcases List.mem_cons.1 hv with rfl | hv
    · exact absurd (Option.some.inj (hw.symm.trans hk)) hj
    rcases ih hv with hmem | ⟨u, hu, huk⟩
    · exact Or.inl ((List.mem_cons.1 hmem).resolve_left (Ne.symm hj))
    · exact Or.inr ⟨u, List.mem_cons_of_mem _ hu, huk⟩

theorem mem_keysIn {column : String} {rows : List Record} {v : Value} (h : v ∈ keysIn column rows) :
    v.key.isSome = true ∧ ∃ row ∈ rows, row.get? column = some v := by
  obtain ⟨hv, hk⟩ := mem_distinctFrom h
  exact ⟨hk, List.mem_filterMap.1 hv⟩

/-- The keys in a column are exactly the keys of its rows. -/
theorem exists_mem_keysIn {column : String} {rows : List Record} {k : String} :
    (∃ v ∈ keysIn column rows, v.key = some k) ↔ ∃ row ∈ rows, keyAt column row = some k := by
  constructor
  · rintro ⟨v, hv, hk⟩
    obtain ⟨-, row, hrow, hget⟩ := mem_keysIn hv
    exact ⟨row, hrow, by rw [keyAt, hget]; exact hk⟩
  · rintro ⟨row, hrow, hk⟩
    obtain ⟨v, hget, hv⟩ := Option.bind_eq_some_iff.1 hk
    have hmem : v ∈ rows.filterMap fun r => r.get? column := List.mem_filterMap.2 ⟨row, hrow, hget⟩
    exact (exists_mem_distinctFrom hmem hv).resolve_left (by simp)

theorem keysIn_congr {column : String} {rows others : List Record}
    (h : rows.map (fun r => r.get? column) = others.map fun r => r.get? column) :
    keysIn column rows = keysIn column others := by
  have he := congrArg (List.filterMap id) h
  simp only [List.filterMap_map, Function.id_comp] at he
  exact congrArg (distinctFrom []) he

/-- Rows whose keys other rows have as well have no keys beyond theirs. -/
theorem keysAmong_keysIn {column : String} {rows others : List Record}
    (h : ∀ row ∈ rows, ∃ other ∈ others, other.cell column = row.cell column) :
    KeysAmong (keysIn column rows) (keysIn column others) := by
  intro v hv
  obtain ⟨k, hk⟩ := Option.isSome_iff_exists.1 (mem_keysIn hv).1
  obtain ⟨row, hrow, hkey⟩ := exists_mem_keysIn.1 ⟨v, hv, hk⟩
  obtain ⟨other, hother, hcell⟩ := h row hrow
  rw [keyAt_eq, ← hcell, ← keyAt_eq] at hkey
  obtain ⟨w, hw, hwk⟩ := exists_mem_keysIn.2 ⟨other, hother, hkey⟩
  exact ⟨w, hw, hwk.trans hk.symm⟩

/-- Keys of cells that are integers or null are integers. -/
theorem isKeyCell_of_mem_keysIn {column : String} {rows : List Record}
    (h : ∀ r ∈ rows, (r.cell column).isKeyCell = true) {v : Value} (hv : v ∈ keysIn column rows) :
    v.isKeyCell = true := by
  obtain ⟨-, row, hrow, hget⟩ := mem_keysIn hv
  have hc := h row hrow
  rwa [Record.cell, hget] at hc

/-- Comparing a cell with a list of integers asks whether its key is among theirs. -/
theorem holds_isIn {row : Record} {column : String} {keys : List Value}
    (hc : (row.cell column).isKeyCell = true) (hk : ∀ v ∈ keys, v.isKeyCell = true) :
    Operator.isIn.holds (row.cell column) (.list keys) = isKeyed column keys row := by
  rw [isKeyed, keyAt_eq]
  obtain hn | ⟨n, hn⟩ := Value.isKeyCell_cases hc
  · simp [hn, Operator.holds, Value.isNull, Value.key]
  · -- the comparison with a list is one with each of its values, so the induction is on the keys
    rw [hn]
    simp only [Operator.holds, reduceCtorEq, false_and, if_false, Value.isNull, Bool.not_false,
      Bool.true_and, Operator.compares, Value.operandFor, Value.isAmong, Value.key, Option.any_some]
    induction keys with
    | nil => rfl
    | cons v keys ih =>
      rw [List.any_cons, List.any_cons, ih fun w hw => hk w (List.mem_cons_of_mem _ hw)]
      congr 1
      obtain rfl | ⟨m, rfl⟩ := Value.isKeyCell_cases (hk v List.mem_cons_self)
      · simp [Value.looseEq, Value.rank, Value.same]
      · simp only [Value.looseEq_int, Option.some.injEq, decide_eq_decide]
        exact ⟨fun h => by rw [h], fun h => (Numeral.int64Text_injective h).symm⟩

theorem mem_withKey_iff {column : String} {key : Option String} {rows : List Record} {row : Record} :
    row ∈ withKey column key rows ↔ row ∈ rows ∧ ∃ k, key = some k ∧ keyAt column row = some k := by
  cases key with
  | none =>
    refine iff_of_false List.not_mem_nil ?_
    rintro ⟨-, k, hk, -⟩
    cases hk
  | some k =>
    rw [withKey, List.mem_filter, decide_eq_true_eq]
    refine and_congr_right fun _ => ⟨fun h => ⟨k, rfl, h⟩, ?_⟩
    rintro ⟨k', hk, h⟩
    rw [h, hk]

/-- Rows with a given key are those whose key is the only one of a list. -/
theorem withKey_eq_filter {column : String} {v : Value} {k : String} (hv : v.key = some k)
    (rows : List Record) : withKey column (some k) rows = rows.filter (isKeyed column [v]) := by
  refine List.filter_congr fun row _ => ?_
  rw [isKeyed_singleton hv]

end Stitch

end DataModel

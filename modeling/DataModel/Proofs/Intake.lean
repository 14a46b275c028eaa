import DataModel.Proofs.Preparation

/-! A row that is prepared to be inserted has passed validation, and was hashed and stamped after that. Its cells
stand under columns of the model, and there is a null among them where one was given, except for the primary
key, which is then left out, and for the times of writing. What validation demands is reported when it is
missing or null. -/

namespace DataModel

theorem Value.isNull_iff {v : Value} : v.isNull = true ↔ v = .null := by
  cases v <;> simp [isNull]

namespace Record

/-- Whether there is a null under a name, if there is something. -/
def null? (row : Record) (name : String) : Option Bool :=
  (row.get? name).map Value.isNull

variable {row : Record} {name : String}

theorem isNullAt_eq (row : Record) (name : String) : row.isNullAt name = (row.null? name).getD true := by
  rw [isNullAt, null?]
  cases row.get? name <;> rfl

theorem null?_insert (row : Record) (name other : String) (v : Value) :
    null? (row.insert name v) other = if name = other then some v.isNull else row.null? other := by
  rw [null?, Assoc.get?_insert]
  split <;> rfl

theorem null?_eq_none_iff : row.null? name = none ↔ row.get? name = none :=
  Option.map_eq_none_iff

theorem null?_eq_some_true_iff : row.null? name = some true ↔ row.get? name = some .null := by
  rw [null?, Option.map_eq_some_iff]
  constructor
  · rintro ⟨v, hv, hnull⟩
    exact Value.isNull_iff.1 hnull ▸ hv
  · exact fun h => ⟨.null, h, rfl⟩

theorem isNullAt_iff : row.isNullAt name = true ↔ row.cell name = .null := by
  rw [isNullAt, cell]
  cases row.get? name with
  | none => exact iff_of_true rfl rfl
  | some v => exact Value.isNull_iff

end Record

namespace ValidationErrors

theorem mem_columns_push {errors : ValidationErrors} {name column message : String} :
    name ∈ (push errors column message).columns ↔ name ∈ errors.columns ∨ name = column := by
  induction errors with
  | nil => simp [push, columns]
  | cons e errors ih =>
    unfold push
    split
    next he =>
      simp only [columns, List.map_cons, List.mem_cons, he]
      tauto
    next =>
      simp only [columns, List.map_cons, List.mem_cons] at ih ⊢
      rw [ih, or_assoc]

theorem mem_columns_pushAll {errors : ValidationErrors} {name column : String} {messages : List String} :
    name ∈ (pushAll errors column messages).columns ↔ name ∈ errors.columns ∨ name = column ∧ messages ≠ [] := by
  induction messages generalizing errors with
  | nil => simp [pushAll]
  | cons message messages ih =>
    change name ∈ (pushAll (push errors column message) column messages).columns ↔ _
    rw [ih, mem_columns_push]
    simp only [ne_eq, reduceCtorEq, not_false_eq_true, and_true]
    tauto

end ValidationErrors

namespace Model

variable {m : Model} {row values : Record} {sur : Surroundings} {c : Column}

/-- The failing columns of a row to be inserted are those that break a rule. -/
theorem mem_columns_validate {name : String} :
    name ∈ (m.validate row).columns ↔ ∃ c ∈ m.columns, c.name = name ∧ m.columnViolations c row ≠ [] := by
  have hfold : ∀ (columns : List Column) (errors : ValidationErrors),
      name ∈ ValidationErrors.columns (columns.foldl (fun errors c =>
        ValidationErrors.pushAll errors c.name ((m.columnViolations c row).map Violation.message)) errors) ↔
      name ∈ errors.columns ∨ ∃ c ∈ columns, c.name = name ∧ m.columnViolations c row ≠ [] := by
    intro columns
    induction columns with
    | nil => simp
    | cons c columns ih =>
      intro errors
      rw [List.foldl_cons, ih, ValidationErrors.mem_columns_pushAll, List.exists_mem_cons_iff, or_assoc, ne_eq,
        List.map_eq_nil_iff, eq_comm]
  refine (hfold m.columns []).trans (or_iff_right ?_)
  exact List.not_mem_nil

/-- Whether validation does not let a column be missing in a row to be inserted. -/
def demands (m : Model) (c : Column) : Bool :=
  c.isRequired || (!c.nullable && c.default.isNone && !m.isGenerated c)

/-- A demanded column that is missing or null breaks a rule, and one that is not demanded does not. -/
theorem columnViolations_of_null (hcell : row.cell c.name = .null) :
    m.columnViolations c row = [] ↔ m.demands c = false := by
  rw [columnViolations, hcell, absenceViolations, demands, violatedIf]
  cases c.isRequired <;> cases !c.nullable && c.default.isNone && !m.isGenerated c <;> simp

theorem keys_hashed {columns : List Column} (h : m.hashed sur columns row = .ok values) : values.keys = row.keys :=
  hashed_rec (motive := fun r => r.keys = row.keys) h rfl fun _ _ _ _ hold hr =>
    (Assoc.keys_insert_of_mem (List.mem_map_of_mem (Assoc.mem_of_get? hold))).trans hr

theorem null?_hashed {columns : List Column} (h : m.hashed sur columns row = .ok values) (name : String) :
    values.null? name = row.null? name := by
  refine hashed_rec (motive := fun r => r.null? name = row.null? name) h rfl fun r column _ _ hold hr => ?_
  rw [Record.null?_insert]
  split
  next hname => rw [← hr, ← hname, Record.null?, hold]; rfl
  next => exact hr

/-- The times of writing are set, and a time of making is kept when there is one. -/
theorem get?_stamped (m : Model) (now : String) (row : Record) (name : String) :
    (m.stamped .insert now row).get? name =
      if m.timestamps = true ∧ name = updatedAt then some (.text now)
      else if m.timestamps = true ∧ name = createdAt then some ((row.get? name).getD (.text now))
      else row.get? name := by
  unfold stamped
  cases m.timestamps with
  | false => simp
  | true =>
    simp only [if_true, true_and, Assoc.get?_insert]
    by_cases hupdated : name = updatedAt
    · rw [if_pos hupdated.symm, if_pos hupdated]
    rw [if_neg (Ne.symm hupdated), if_neg hupdated]
    by_cases hcreated : name = createdAt
    · rw [if_pos hcreated, hcreated]
      cases hcell : row.get? createdAt with
      | none => rw [if_pos (by simp [Assoc.has, hcell]), Assoc.get?_insert_self, Option.getD_none]
      | some v => rw [if_neg (by simp [Assoc.has, hcell]), hcell, Option.getD_some]
    · rw [if_neg hcreated]
      split
      · rw [Assoc.get?_insert_of_ne (Ne.symm hcreated)]
      · rfl

/-- The times of writing are no nulls, and a time of making is one when it was. -/
theorem null?_stamped (m : Model) (now : String) (row : Record) (name : String) :
    Record.null? (m.stamped .insert now row) name =
      if m.timestamps = true ∧ name = updatedAt then some false
      else if m.timestamps = true ∧ name = createdAt then some ((row.null? name).getD false)
      else row.null? name := by
  rw [Record.null?, get?_stamped]
  split
  · rfl
  split
  · rw [Record.null?]
    cases row.get? name <;> rfl
  · rfl

theorem null?_withoutNullKey (hrow : Assoc.Distinct row) :
    Record.null? (m.withoutNullKey row) m.primaryKey =
      if row.null? m.primaryKey = some true then none else row.null? m.primaryKey := by
  unfold withoutNullKey
  split
  next hnull =>
    rw [if_pos (Record.null?_eq_some_true_iff.2 hnull)]
    exact Record.null?_eq_none_iff.2 (Assoc.get?_eq_none_iff.2 (hrow.not_mem_keys_erase _))
  next hnot => rw [if_neg fun h => hnot (Record.null?_eq_some_true_iff.1 h)]

theorem get?_withoutNullKey_of_ne {name : String} (hname : name ≠ m.primaryKey) :
    (m.withoutNullKey row).get? name = row.get? name := by
  unfold withoutNullKey
  split
  next => exact Assoc.get?_erase_of_ne (Ne.symm hname)
  next => rfl

theorem null?_withoutNullKey_of_ne {name : String} (hname : name ≠ m.primaryKey) :
    Record.null? (m.withoutNullKey row) name = row.null? name := by
  rw [Record.null?, get?_withoutNullKey_of_ne hname, Record.null?]

/-- A cell under a column is taken as its kind says. -/
theorem get?_known {name : String} (hc : m.column? name = some c) (row : Record) :
    (m.known row).get? name = (row.get? name).map (taken c.kind) := by
  induction row with
  | nil => rfl
  | cons e row ih =>
    obtain ⟨key, v⟩ := e
    rw [known, List.filterMap_cons]
    by_cases hkey : key = name
    · rw [hkey, hc, Assoc.get?_cons, if_pos rfl]
      exact (Assoc.get?_cons _ _ _ _).trans (if_pos rfl)
    · rw [Assoc.get?_cons, if_neg hkey, ← ih]
      cases m.column? key with
      | none => rfl
      | some d => exact (Assoc.get?_cons _ _ _ _).trans (if_neg hkey)

theorem distinct_known (hrow : Assoc.Distinct row) : Assoc.Distinct (m.known row) :=
  (m.keys_known_sublist row).nodup hrow

theorem mem_columnNames_of_known {name : String} (h : name ∈ (m.known row).keys) : name ∈ m.columnNames := by
  obtain ⟨e, he, rfl⟩ := List.mem_map.1 h
  obtain ⟨e', -, hmap⟩ := List.mem_filterMap.1 he
  obtain ⟨c, hc, rfl⟩ := Option.map_eq_some_iff.1 hmap
  exact List.mem_map.2 ⟨c, List.mem_of_find?_eq_some hc, name_of_column? hc⟩

theorem keys_withoutNullKey_sublist (m : Model) (row : Record) : (m.withoutNullKey row).keys.Sublist row.keys := by
  unfold withoutNullKey
  split
  · exact Assoc.keys_erase_sublist _ _
  · exact List.Sublist.refl _

/-- Validation brings no cells. -/
theorem keys_validated_sublist {writing : Writing} {valid : Record} (h : m.validated writing row = .ok valid) :
    valid.keys.Sublist row.keys := by
  cases writing with
  | insert =>
    simp only [validated, if_true] at h
    split at h
    · exact ok_eq_ok_iff.1 h ▸ m.keys_withoutNullKey_sublist row
    · cases h
  | update =>
    simp only [validated, reduceCtorEq, if_false] at h
    split at h
    · rw [ok_eq_ok_iff.1 h]
    · cases h

theorem hashed_ne_store {columns : List Column} {e : StoreError} : m.hashed sur columns row ≠ .error (.store e) := by
  intro h
  induction columns generalizing row with
  | nil => cases h
  | cons c columns ih =>
    unfold hashed at h
    split at h
    · split at h
      · split at h
        · exact ih h
        · cases h
      · exact ih h
    · exact ih h

theorem exists_of_prepare (h : m.prepare sur .insert row = .ok values) :
    m.validate (m.withoutNullKey (m.known row)) = [] ∧
      ∃ hashed, m.hashed sur m.columns (m.withoutNullKey (m.known row)) = .ok hashed ∧
        values = m.stamped .insert sur.now hashed := by
  obtain ⟨valid, hvalid, h⟩ := bind_eq_ok_iff.1 h
  obtain ⟨hashed, hhashed, h⟩ := bind_eq_ok_iff.1 h
  simp only [validated, if_true] at hvalid
  split at hvalid
  next hnone =>
    rw [ok_eq_ok_iff.1 hvalid] at hhashed
    exact ⟨List.isEmpty_iff.1 hnone, hashed, hhashed, ok_eq_ok_iff.1 h⟩
  next => cases hvalid

theorem null?_of_prepare (h : m.prepare sur .insert row = .ok values) {name : String} :
    values.null? name =
      if m.timestamps = true ∧ name = updatedAt then some false
      else if m.timestamps = true ∧ name = createdAt then
        some ((Record.null? (m.withoutNullKey (m.known row)) name).getD false)
      else Record.null? (m.withoutNullKey (m.known row)) name := by
  obtain ⟨-, hashed, hhashed, rfl⟩ := exists_of_prepare h
  rw [null?_stamped, null?_hashed hhashed]

theorem prepare_ne_store {writing : Writing} {e : StoreError} : m.prepare sur writing row ≠ .error (.store e) := by
  have hvalidated : ∀ (errors : ValidationErrors) (valid : Record),
      (if errors.isEmpty then .ok valid else .error (.validation errors) : Except ModelError Record) ≠
        .error (.store e) := by
    intro errors valid
    split <;> exact nofun
  intro h
  rcases bind_eq_error_iff.1 h with h | ⟨valid, -, h⟩
  · exact hvalidated _ _ h
  rcases bind_eq_error_iff.1 h with h | ⟨hashed, -, h⟩
  · exact hashed_ne_store h
  · cases h

theorem prepare_of_demands (sur : Surroundings) (hrow : Assoc.Distinct row) (hc : c ∈ m.columns)
    (hdemands : m.demands c = true) (hcell : (m.known row).cell c.name = .null) :
    ∃ errors, m.prepare sur .insert row = .error (.validation errors) ∧ c.name ∈ errors.columns := by
  have hnull : (m.withoutNullKey (m.known row)).cell c.name = .null := by
    rw [← Record.isNullAt_iff, Record.isNullAt_eq] at hcell ⊢
    by_cases hkey : c.name = m.primaryKey
    · rw [hkey] at hcell ⊢
      rw [null?_withoutNullKey (distinct_known hrow)]
      split
      · rfl
      · exact hcell
    · rw [null?_withoutNullKey_of_ne hkey]
      exact hcell
  have hmem : c.name ∈ (m.validate (m.withoutNullKey (m.known row))).columns := by
    refine mem_columns_validate.2 ⟨c, hc, rfl, fun hnone => ?_⟩
    rw [columnViolations_of_null hnull, hdemands] at hnone
    cases hnone
  have hsome : (m.validate (m.withoutNullKey (m.known row))).isEmpty = false := by
    rw [List.isEmpty_eq_false_iff]
    intro hnone
    rw [hnone] at hmem
    cases hmem
  refine ⟨_, ?_, hmem⟩
  simp only [prepare, validated, if_true, hsome, Bool.false_eq_true, if_false]
  rfl

namespace Completed

variable (hm : m.Completed)
include hm

/-- Every cell that is written stands under a column of the model. -/
theorem mem_columnNames_of_prepare {writing : Writing} (h : m.prepare sur writing row = .ok values) {name : String}
    (hname : name ∈ values.keys) : name ∈ m.columnNames := by
  obtain ⟨valid, hvalid, h⟩ := bind_eq_ok_iff.1 h
  obtain ⟨hashed, hhashed, h⟩ := bind_eq_ok_iff.1 h
  rw [ok_eq_ok_iff.1 h] at hname
  have hgiven : name ∈ hashed.keys → name ∈ m.columnNames := fun hin =>
    mem_columnNames_of_known ((keys_validated_sublist hvalid).subset (keys_hashed hhashed ▸ hin))
  unfold stamped at hname
  split at hname
  next htimes =>
    obtain ⟨hcreated, hupdated⟩ := hm.stamps htimes
    dsimp only at hname
    rcases Assoc.mem_keys_insert.1 hname with rfl | hname
    · exact hasColumnIn_iff.1 hupdated
    split at hname
    · rcases Assoc.mem_keys_insert.1 hname with rfl | hname
      · exact hasColumnIn_iff.1 hcreated
      · exact hgiven hname
    · exact hgiven hname
  next => exact hgiven hname

/-- In a row that has passed validation, what is null under a column that is not nullable has a default. -/
theorem isSome_default_of_prepare (h : m.prepare sur .insert row = .ok values) (hc : c ∈ m.columns)
    (hkey : c.name ≠ m.primaryKey) (hnullable : c.nullable = false)
    (hcell : (m.known row).isNullAt c.name = true) : c.default.isSome = true := by
  have hnull : (m.withoutNullKey (m.known row)).cell c.name = .null := by
    rw [← Record.isNullAt_iff, Record.isNullAt_eq, null?_withoutNullKey_of_ne hkey, ← Record.isNullAt_eq]
    exact hcell
  have hdemands : m.demands c = false := by
    rw [← columnViolations_of_null hnull]
    by_contra hviolated
    have hmem := mem_columns_validate.2 ⟨c, hc, rfl, hviolated⟩
    rw [(exists_of_prepare h).1] at hmem
    cases hmem
  have hgenerated : m.isGenerated c = false := by
    have himplicit : c.implicit = false :=
      Bool.eq_false_iff.2 fun himplicit => hkey (hm.implicit c hc himplicit hnullable)
    rw [isGenerated, himplicit, decide_eq_false hkey]
    rfl
  rw [demands, hnullable, hgenerated] at hdemands
  cases hdefault : c.default with
  | some v => rfl
  | none => simp [hdefault] at hdemands

end Completed

end Model

end DataModel

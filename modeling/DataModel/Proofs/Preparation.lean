import DataModel.Preparation
import DataModel.Proofs.Coherence

/-! A row that is prepared for a change names no primary key when it was given none, and has no null under a
column that is not nullable: nulls are looked for after JSON texts were read, and everything that is set later
is a text. -/

namespace DataModel

/-- When no step of a fold empties the list, a fold that ends without items met only what adds none. -/
theorem forall_of_foldl_eq_nil {α β : Type} {f : List β → α → List β} {P : α → Prop}
    (hstep : ∀ errors a, f errors a = [] → errors = [] ∧ P a) {items : List α} {errors : List β}
    (h : items.foldl f errors = []) : errors = [] ∧ ∀ a ∈ items, P a := by
  induction items generalizing errors with
  | nil => exact ⟨h, fun a ha => absurd ha List.not_mem_nil⟩
  | cons a items ih =>
    obtain ⟨hfirst, hrest⟩ := ih h
    obtain ⟨hnil, ha⟩ := hstep errors a hfirst
    exact ⟨hnil, List.forall_mem_cons.2 ⟨ha, hrest⟩⟩

namespace ValidationErrors

theorem push_ne_nil (errors : ValidationErrors) (column message : String) : push errors column message ≠ [] := by
  cases errors with
  | nil => exact List.cons_ne_nil _ _
  | cons e errors =>
    unfold push
    split <;> exact List.cons_ne_nil _ _

/-- Nothing has failed when nothing had and there is nothing new. -/
theorem pushAll_eq_nil_iff {errors : ValidationErrors} {column : String} {messages : List String} :
    pushAll errors column messages = [] ↔ errors = [] ∧ messages = [] := by
  induction messages generalizing errors with
  | nil => simp [pushAll]
  | cons message messages ih =>
    change pushAll (push errors column message) column messages = [] ↔ _
    rw [ih]
    simp [push_ne_nil]

end ValidationErrors

namespace Model

variable {m : Model}

/-- Whether cells may be set in any row of the model: the primary key is not among them, and no column that is not
nullable gets a null. -/
structure MaySet (m : Model) (values : Record) : Prop where
  key : m.primaryKey ∉ values.keys
  nulls : ∀ c ∈ m.columns, c.nullable = false → ∀ e ∈ values, e.1 = c.name → e.2.isNull = false

/-- What putting a text in the place of a text keeps, hashing keeps. -/
theorem hashed_rec {motive : Record → Prop} {s : Surroundings} {columns : List Column} {values values' : Record}
    (h : m.hashed s columns values = .ok values') (hvalues : motive values)
    (hinsert : ∀ (row : Record) (column old hash : String), row.get? column = some (.text old) → motive row →
      motive (row.insert column (.text hash))) : motive values' := by
  induction columns generalizing values with
  | nil =>
    rw [ok_eq_ok_iff.1 h]
    exact hvalues
  | cons c columns ih =>
    unfold hashed at h
    split at h
    · split at h
      next password hpassword =>
        split at h
        next hash _ => exact ih h (hinsert values c.name password hash hpassword hvalues)
        next => cases h
      next => exact ih h hvalues
    · exact ih h hvalues

namespace MaySet

theorem empty (m : Model) : m.MaySet [] :=
  ⟨List.not_mem_nil, fun _ _ _ _ he => absurd he List.not_mem_nil⟩

theorem insert {values : Record} (h : m.MaySet values) {name : String} (hname : name ≠ m.primaryKey)
    (text : String) : m.MaySet (values.insert name (.text text)) where
  key hkey := (Assoc.mem_keys_insert.1 hkey).elim (fun he => hname he.symm) h.key
  nulls c hc hnull e he hec := by
    obtain rfl | he := Assoc.mem_insert he
    · rfl
    · exact h.nulls c hc hnull e he hec

theorem hashed {s : Surroundings} {columns : List Column} {values values' : Record} (h : m.MaySet values)
    (hh : m.hashed s columns values = .ok values') : m.MaySet values' :=
  hashed_rec hh h fun _ _ _ hash hold hrow =>
    hrow.insert (fun he => hrow.key (he ▸ List.mem_map_of_mem (Assoc.mem_of_get? hold))) hash

theorem stamped {values : Record} (h : m.MaySet values) (hkey : m.primaryKey ∉ [createdAt, updatedAt, deletedAt])
    (now : String) : m.MaySet (m.stamped .update now values) := by
  unfold Model.stamped
  split
  · refine h.insert (fun he => hkey ?_) now
    rw [← he]
    decide
  · exact h

end MaySet

theorem keys_known_sublist (m : Model) (row : Record) : (m.known row).keys.Sublist row.keys := by
  induction row with
  | nil => exact .slnil
  | cons e row ih =>
    unfold known at ih ⊢
    rw [List.filterMap_cons]
    cases m.column? e.1 with
    | none => exact ih.cons _
    | some c => exact ih.cons_cons _

theorem mem_keys_known {row : Record} {name : String} (h : name ∈ (m.known row).keys) : name ∈ row.keys :=
  (m.keys_known_sublist row).subset h

/-- A row to be changed has no failures when none of its cells has. -/
theorem cellViolations_of_validatePartial {row : Record} (h : m.validatePartial row = []) :
    ∀ e ∈ row, ∀ c, m.column? e.1 = some c → cellViolations c e.2 = [] := by
  unfold validatePartial at h
  refine (forall_of_foldl_eq_nil (fun errors e herrors => ?_) h).2
  cases hc : m.column? e.1 with
  | none =>
    rw [hc] at herrors
    exact ⟨herrors, fun c hc => absurd hc (Option.some_ne_none c).symm⟩
  | some c =>
    rw [hc] at herrors
    obtain ⟨hnil, hmessages⟩ := ValidationErrors.pushAll_eq_nil_iff.1 herrors
    refine ⟨hnil, fun c' hc' => ?_⟩
    rw [← Option.some.inj hc']
    exact List.map_eq_nil_iff.1 hmessages

theorem isNull_of_cellViolations {c : Column} {v : Value} (h : cellViolations c v = []) (hnull : c.nullable = false) :
    v.isNull = false := by
  cases v with
  | null =>
    simp only [cellViolations, hnull] at h
    split at h <;> cases h
  | _ => rfl

/-- A row that is prepared for a change has passed validation, and was hashed and stamped after that. -/
theorem exists_of_prepare_update {s : Surroundings} {row values : Record} (h : m.prepare s .update row = .ok values) :
    m.validatePartial (m.known row) = [] ∧
      ∃ hashed, m.hashed s m.columns (m.known row) = .ok hashed ∧ values = m.stamped .update s.now hashed := by
  obtain ⟨valid, hvalid, h⟩ := bind_eq_ok_iff.1 h
  obtain ⟨hashed, hhashed, h⟩ := bind_eq_ok_iff.1 h
  simp only [validated, reduceCtorEq, if_false] at hvalid
  split at hvalid
  next hnone =>
    rw [ok_eq_ok_iff.1 hvalid] at hhashed
    exact ⟨List.isEmpty_iff.1 hnone, hashed, hhashed, ok_eq_ok_iff.1 h⟩
  next => cases hvalid

/-- Cells that are prepared for a change may be set. -/
theorem Coherent.maySet_of_prepare (hm : m.Coherent) (hkey : m.primaryKey ∉ [createdAt, updatedAt, deletedAt])
    {s : Surroundings} {row values : Record} (hrow : m.primaryKey ∉ row.keys)
    (h : m.prepare s .update row = .ok values) : m.MaySet values := by
  obtain ⟨hnone, hashed, hhashed, rfl⟩ := exists_of_prepare_update h
  have hknown : m.MaySet (m.known row) := by
    refine ⟨fun hin => hrow (mem_keys_known hin), fun c hc hnull e he hec => ?_⟩
    refine isNull_of_cellViolations (cellViolations_of_validatePartial hnone e he c ?_) hnull
    rw [hec, hm.column?_eq hc]
  exact (hknown.hashed hhashed).stamped hkey s.now

end Model

end DataModel

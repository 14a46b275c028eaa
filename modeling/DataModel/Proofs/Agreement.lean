import DataModel.Proofs.Report

/-!
# Rows that may be inserted and rows that may be changed

A row to be inserted is checked column by column, and a row to be changed cell by cell. Where there is a value, both find
the same. They differ where there is none: nothing is found for a cell that is left out of a change, and a null is put
up with in a row to be inserted when the engine or the table has a value instead.
-/

namespace DataModel

/-- The cells of a row that are no nulls. -/
def Record.present (row : Record) : Record :=
  row.filter fun e => !e.2.isNull

theorem Record.mem_present {row : Record} {e : String × Value} : e ∈ row.present ↔ e ∈ row ∧ e.2 ≠ .null := by
  rw [present, List.mem_filter, Bool.not_eq_true', ← Bool.not_eq_true, Value.isNull_iff]

namespace Model

variable {m : Model} {c : Column} {row : Record}

/-- A row may be inserted when none of the columns breaks a rule. -/
theorem validate_eq_nil_iff : m.validate row = [] ↔ ∀ c ∈ m.columns, m.columnViolations c row = [] := by
  constructor
  · intro h c hc
    by_contra hviolated
    have hmem := mem_columns_validate.2 ⟨c, hc, rfl, hviolated⟩
    rw [h] at hmem
    cases hmem
  · intro h
    by_contra hne
    obtain ⟨e, he⟩ := List.exists_mem_of_ne_nil _ hne
    obtain ⟨c, hc, -, hviolated⟩ := mem_columns_validate.1 (List.mem_map_of_mem he)
    exact hviolated (h c hc)

/-- A row may be changed when none of its cells breaks a rule. -/
theorem validatePartial_eq_nil_iff :
    m.validatePartial row = [] ↔ ∀ e ∈ row, ∀ c, m.column? e.1 = some c → cellViolations c e.2 = [] := by
  refine ⟨cellViolations_of_validatePartial, fun h => ?_⟩
  unfold validatePartial
  induction row with
  | nil => rfl
  | cons e row ih =>
    rw [List.forall_mem_cons] at h
    rw [List.foldl_cons]
    cases hc : m.column? e.1 with
    | none => exact ih h.2
    | some c =>
      dsimp only
      rw [h.1 c hc]
      exact ih h.2

/-- A value breaks the same rules in a row to be inserted and in a row to be changed. -/
theorem columnViolations_of_ne_null (hv : row.cell c.name ≠ .null) :
    m.columnViolations c row = cellViolations c (row.cell c.name) := by
  unfold columnViolations cellViolations
  split
  next hnull => exact absurd hnull hv
  next => rfl

theorem cellViolations_null : cellViolations c .null = [] ↔ c.isRequired = false ∧ c.nullable = true := by
  rw [cellViolations, violatedIf]
  cases c.isRequired <;> cases c.nullable <;> simp

/-- What is there in a row that may be inserted may be put in place of what another row has. -/
theorem validatePartial_present (hrow : Assoc.Distinct row) (h : m.validate row = []) {part : Record}
    (hpart : ∀ e ∈ part, e ∈ row) : m.validatePartial part.present = [] := by
  refine validatePartial_eq_nil_iff.2 fun e he c hc => ?_
  obtain ⟨hin, hv⟩ := Record.mem_present.1 he
  have hcell : row.cell c.name = e.2 := by
    rw [Record.cell, name_of_column? hc, hrow.get?_eq (hpart e hin), Option.getD_some]
  rw [← hcell, ← columnViolations_of_ne_null (hcell ▸ hv)]
  exact validate_eq_nil_iff.1 h c (List.mem_of_find?_eq_some hc)

/-- A row has all values that validation demands. -/
theorem cell_ne_null_of_validate (h : m.validate row = []) (hc : c ∈ m.columns) (hdemands : m.demands c = true) :
    row.cell c.name ≠ .null := by
  intro hnull
  have hfree := (columnViolations_of_null hnull).1 (validate_eq_nil_iff.1 h c hc)
  exact absurd hdemands (Bool.eq_false_iff.1 hfree)

theorem validate_of_present (hm : m.columnNames.Nodup) (hpresent : m.validatePartial row.present = [])
    (hdemands : ∀ c ∈ m.columns, m.demands c = true → row.cell c.name ≠ .null) : m.validate row = [] := by
  refine validate_eq_nil_iff.2 fun c hc => ?_
  by_cases hcell : row.cell c.name = .null
  · exact (columnViolations_of_null hcell).2 (Bool.eq_false_iff.2 fun hdemanded => hdemands c hc hdemanded hcell)
  have hmem : (c.name, row.cell c.name) ∈ row.present :=
    Record.mem_present.2 ⟨Assoc.mem_of_get? (Record.get?_of_cell_ne_null hcell), hcell⟩
  rw [columnViolations_of_ne_null hcell]
  exact validatePartial_eq_nil_iff.1 hpresent _ hmem c (find?_name hm hc)

/-- A row may be inserted when its values may be changed and it has all that is demanded. So may every part of it be
put into another row, and no change puts a null where none may be; and for a value both tell the same. -/
theorem validations_agree (hm : m.columnNames.Nodup) (hrow : Assoc.Distinct row) :
    (m.validate row = [] ↔ m.validatePartial row.present = [] ∧
      ∀ c ∈ m.columns, c.isRequired = true ∨ (c.nullable = false ∧ c.default = none ∧ m.isGenerated c = false) →
        row.cell c.name ≠ .null) ∧
    (m.validate row = [] → ∀ part : Record, (∀ e ∈ part, e ∈ row) → m.validatePartial part.present = []) ∧
    (m.validatePartial row = [] → ∀ c ∈ m.columns, c.isRequired = true ∨ c.nullable = false →
      (c.name, .null) ∉ row) ∧
    ∀ c ∈ m.columns, row.cell c.name ≠ .null →
      (m.validate row).messagesOf c.name = (m.validatePartial row).messagesOf c.name := by
  have hdemands : ∀ c, m.demands c = true ↔
      c.isRequired = true ∨ (c.nullable = false ∧ c.default = none ∧ m.isGenerated c = false) := by
    intro c
    simp [demands, and_assoc]
  simp only [← hdemands]
  refine ⟨⟨fun h => ?_, fun h => validate_of_present hm h.1 h.2⟩, fun h part hpart => ?_, ?_, ?_⟩
  · exact ⟨validatePartial_present hrow h fun e he => he, fun c hc => cell_ne_null_of_validate h hc⟩
  · exact validatePartial_present hrow h hpart
  · intro h c hc hstrict hin
    obtain ⟨hrequired, hnullable⟩ :=
      cellViolations_null.1 (validatePartial_eq_nil_iff.1 h _ hin c (find?_name hm hc))
    rw [hrequired, hnullable] at hstrict
    simp at hstrict
  · intro c hc hcell
    rw [messagesOf_validate hm hc, messagesOf_validatePartial hm hrow hc, columnViolations_of_ne_null hcell,
      Record.get?_of_cell_ne_null hcell]

end Model

namespace Sample

/-- A caller with a name and a number, who does not say why. -/
def laconic : Record :=
  [("name", .text "Ada"), ("reason", .null), ("number", .text "0301234567")]

/-- A caller who says no more than a number. -/
def unnamed : Record :=
  [("name", .null), ("number", .text "0301234567")]

/-- The laconic caller may be inserted, and its name may be put in place of that of another; the unnamed caller may not
be inserted, but its number may be put in place of that of another. -/
theorem laconic_accepted :
    caller.validate laconic = [] ∧ caller.validatePartial [("name", .text "Ada")] = [] ∧
      caller.validate unnamed ≠ [] ∧ caller.validatePartial unnamed.present = [] := by
  have hnames : caller.columnNames.Nodup := by decide
  have hlaconic : laconic.keys.Nodup := by decide
  have hunnamed : unnamed.keys.Nodup := by decide
  obtain ⟨hinsert, hparts, -⟩ := Model.validations_agree hnames hlaconic
  have hvalid : caller.validate laconic = [] := by
    refine hinsert.2 ⟨rfl, List.forall_mem_cons.2 ⟨?_, List.forall_mem_cons.2 ⟨fun _ => nofun,
      List.forall_mem_cons.2 ⟨fun _ => nofun, List.forall_mem_singleton.2 ?_⟩⟩⟩⟩
    · -- the primary key is generated
      rintro (h | ⟨-, -, h⟩) <;> cases h
    · -- a reason need not be given
      rintro (h | ⟨h, -⟩) <;> cases h
  refine ⟨hvalid, hparts hvalid [("name", .text "Ada")] ?_, fun hnone => ?_, rfl⟩
  · exact List.forall_mem_singleton.2 List.mem_cons_self
  · have hname : caller.columns[1] ∈ caller.columns := List.getElem_mem _
    exact ((Model.validations_agree hnames hunnamed).1.1 hnone).2 _ hname (.inl rfl) rfl

end Sample

end DataModel

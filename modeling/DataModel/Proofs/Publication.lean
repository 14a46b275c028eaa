import DataModel.Handle
import DataModel.Proofs.Program
import DataModel.Proofs.Reading
import Mathlib.Data.List.Induction

/-!
# The last model of a name

A registry is given models to load, to load again and to take out, while the files that they come from change,
break and disappear. Under each name it holds (`Registry.HoldsLast`) the last model that was complete, with
the source that was loaded last: to load again reads what the source says by then, and a model is put under
its name when nothing can fail any more. In memory every model that is put under a name has a cell of its own,
which is never written again. So who has taken a model goes on with it, whatever is put under the name later.
-/

namespace DataModel

/-- Whether something has happened at a step of a run, and since then no step has undone it. What happens at a step
may depend on the steps before it. -/
def Since {α : Type} (happens undoes : List α → α → Prop) (steps : List α) : Prop :=
  ∃ earlier step later, steps = earlier ++ step :: later ∧ happens earlier step ∧
    ∀ before next after, later = before ++ next :: after → ¬ undoes (earlier ++ step :: before) next

theorem not_since_nil {α : Type} {happens undoes : List α → α → Prop} : ¬ Since happens undoes [] := by
  rintro ⟨earlier, step, later, h, -⟩
  cases earlier <;> cases h

/-- A step of a run with one step more at its end is that one, or a step of the run. -/
theorem append_singleton_eq_iff {α : Type} {steps earlier later : List α} {last step : α} :
    steps ++ [last] = earlier ++ step :: later ↔
      steps = earlier ∧ last = step ∧ later = [] ∨ ∃ rest, later = rest ++ [last] ∧ steps = earlier ++ step :: rest := by
  constructor
  · intro h
    rcases List.eq_nil_or_concat' later with rfl | ⟨rest, next, rfl⟩
    · obtain ⟨hsteps, hlast⟩ := List.append_inj' h rfl
      cases hlast
      exact Or.inl ⟨hsteps, rfl, rfl⟩
    · rw [← List.cons_append, ← List.append_assoc] at h
      obtain ⟨hsteps, hlast⟩ := List.append_inj' h rfl
      cases hlast
      exact Or.inr ⟨rest, rfl, hsteps⟩
  · rintro (⟨rfl, rfl, rfl⟩ | ⟨rest, rfl, rfl⟩)
    · rfl
    · rw [List.append_assoc, List.cons_append]

/-- One step more: it happens there, or it has happened before and is not undone there. -/
theorem since_append_singleton {α : Type} {happens undoes : List α → α → Prop} {steps : List α} {last : α} :
    Since happens undoes (steps ++ [last]) ↔
      happens steps last ∨ Since happens undoes steps ∧ ¬ undoes steps last := by
  constructor
  · rintro ⟨earlier, step, later, hsteps, hhappens, hundone⟩
    rcases append_singleton_eq_iff.1 hsteps with ⟨rfl, rfl, -⟩ | ⟨rest, rfl, rfl⟩
    · exact Or.inl hhappens
    · refine Or.inr ⟨⟨earlier, step, rest, rfl, hhappens, fun before next after hrest => ?_⟩, ?_⟩
      · exact hundone before next (after ++ [last]) (by simp [hrest])
      · exact hundone rest last [] rfl
  · rintro (hhappens | ⟨⟨earlier, step, later, rfl, hhappens, hundone⟩, hlast⟩)
    · exact ⟨steps, last, [], rfl, hhappens, fun before next after h => absurd h (by simp)⟩
    · refine ⟨earlier, step, later ++ [last], by simp, hhappens, fun before next after hlater => ?_⟩
      rcases append_singleton_eq_iff.1 hlater with ⟨rfl, rfl, -⟩ | ⟨rest, -, hrest⟩
      · exact hlast
      · exact hundone before next rest hrest

namespace Model

variable {f : Files} {source name : String} {m : Model}

/-- A model is loaded when its source can be read, the text is a document, and a model can be made of it. -/
theorem load_eq_ok_iff : load f source name = .ok m ↔
    ∃ text declared, f.readSource source = .ok text ∧ Metadata.parse? text = some declared ∧
      resolve name source declared = .ok m := by
  rw [load, bind_eq_ok_iff]
  refine exists_congr fun text => ?_
  rw [exists_and_left]
  refine and_congr_right fun _ => ?_
  rw [ofText]
  cases Metadata.parse? text with
  | none => simp
  | some declared => simp

/-- A model has the name and the source that it was loaded with. -/
theorem name_source_of_load (h : load f source name = .ok m) : m.name = name ∧ m.source = source := by
  obtain ⟨text, declared, -, -, hm⟩ := load_eq_ok_iff.1 h
  obtain ⟨-, hm⟩ := check_bind_eq_ok_iff.1 hm
  obtain ⟨own, -, hm⟩ := bind_eq_ok_iff.1 hm
  obtain ⟨added, -, hm⟩ := bind_eq_ok_iff.1 hm
  rw [ok_eq_ok_iff.1 hm]
  exact ⟨rfl, rfl⟩

end Model

namespace Registry

/-- Something that is done with a registry. The files are those that are there at the time. -/
inductive Step where
  | load (f : Files) (source name : String)
  | reload (f : Files) (name : String)
  | remove (name : String)
  | take (name : String)

/-- What comes of a step: the model that it is about, and the registry as it is afterwards. -/
def Step.perform (r : Registry) : Step → Except ModelError (Option Model × Registry)
  | .load f source name => do
    let (m, r') ← r.load f source name
    .ok (some m, r')
  | .reload f name => do
    let (m, r') ← r.reload f name
    .ok (some m, r')
  | .remove name => .ok (r.remove name)
  | .take name => do
    let m ← r.find name
    .ok (some m, r)

/-- The registry after a step: as it was, when the step failed. -/
def step (r : Registry) (op : Step) : Registry :=
  match op.perform r with
  | .ok (_, r') => r'
  | .error _ => r

/-- The registry after several steps, without any models at first. -/
def run (steps : List Step) : Registry :=
  steps.foldl step empty

/-- Whether a step loads the model of a name from a source. -/
def Step.Loads (name source : String) (op : Step) : Prop :=
  ∃ f m, op = .load f source name ∧ Model.load f source name = .ok m

/-- Whether a step makes a model for a name: it loads it from a source, or again from the source of the model that is
there. -/
inductive Step.Makes (r : Registry) (name : String) (m : Model) : Step → Prop
  | load {f : Files} {source : String} (h : Model.load f source name = .ok m) : Makes r name m (.load f source name)
  | reload {f : Files} {old : Model} (hold : r.get? name = some old) (h : Model.load f old.source name = .ok m) :
      Makes r name m (.reload f name)

variable {r : Registry} {name : String} {m : Model}

theorem load_eq_ok_iff {f : Files} {source : String} {r' : Registry} :
    r.load f source name = .ok (m, r') ↔ Model.load f source name = .ok m ∧ r' = r.register m := by
  rw [load]
  cases Model.load f source name with
  | error p => simp
  | ok m' =>
    constructor
    · intro h
      cases h
      exact ⟨rfl, rfl⟩
    · rintro ⟨h, rfl⟩
      cases h
      rfl

theorem load_eq_error {f : Files} {source : String} {p : ParseProblem} (h : Model.load f source name = .error p) :
    r.load f source name = .error (.parse p) := by
  rw [load, h]

theorem find_eq_ok_iff : r.find name = .ok m ↔ r.get? name = some m := by
  rw [find]
  cases r.get? name <;> simp

/-- To load a model again is to load it from the source of the model that is there. -/
theorem reload_eq {old : Model} (hold : r.get? name = some old) (f : Files) :
    r.reload f name = r.load f old.source name := by
  rw [reload, find_eq_ok_iff.2 hold]
  rfl

theorem reload_eq_error (hnone : r.get? name = none) (f : Files) : r.reload f name = .error (.modelNotLoaded name) := by
  rw [reload, find, hnone]
  rfl

theorem get?_register_self (r : Registry) (m : Model) : (r.register m).get? m.name = some m :=
  Assoc.get?_insertSorted_self _ _ _

theorem get?_register_of_ne (h : m.name ≠ name) : (r.register m).get? name = r.get? name :=
  Assoc.get?_insertSorted_of_ne h

theorem Step.Makes.model_name {op : Step} (h : op.Makes r name m) : m.name = name := by
  cases h with
  | load h => exact (Model.name_source_of_load h).1
  | reload _ h => exact (Model.name_source_of_load h).1

/-- A step makes one model at most. -/
theorem Step.Makes.unique {op : Step} {other : String} {m' : Model} (h : op.Makes r name m)
    (h' : op.Makes r other m') : name = other ∧ m = m' := by
  cases h with
  | load h =>
    cases h' with
    | load h' => exact ⟨rfl, Except.ok.inj (h.symm.trans h')⟩
  | reload hold h =>
    cases h' with
    | reload hold' h' =>
      rw [Option.some.inj (hold.symm.trans hold')] at h
      exact ⟨rfl, Except.ok.inj (h.symm.trans h')⟩

/-- A step that makes a model for a name loads it, or there is one already and its source stays. -/
theorem Step.Makes.loads_or {op : Step} (h : op.Makes r name m) :
    op.Loads name m.source ∨
      (∃ old, r.get? name = some old ∧ m.source = old.source) ∧ ∀ source, ¬ op.Loads name source := by
  cases h with
  | @load f source h =>
    rw [(Model.name_source_of_load h).2]
    exact Or.inl ⟨f, m, rfl, h⟩
  | reload hold h =>
    exact Or.inr ⟨⟨_, hold, (Model.name_source_of_load h).2⟩, fun source ⟨f, m', hop, _⟩ => by cases hop⟩

theorem Step.Loads.makes {op : Step} {source : String} (h : op.Loads name source) (r : Registry) :
    ∃ m, op.Makes r name m ∧ m.source = source := by
  obtain ⟨f, m, rfl, hm⟩ := h
  exact ⟨m, .load hm, (Model.name_source_of_load hm).2⟩

/-- What a step can do: it puts the model that it makes under its name, or it takes a model out, or it leaves the
registry alone, also when it fails. -/
theorem step_cases (r : Registry) (op : Step) :
    (∃ name m, op.Makes r name m ∧ r.step op = r.register m) ∨
      (∃ name, op = .remove name ∧ r.step op = ⟨r.models.erase name⟩) ∨
      (∀ name, op ≠ .remove name) ∧ (∀ name m, ¬ op.Makes r name m) ∧ r.step op = r := by
  cases op with
  | load f source name =>
    cases hm : Model.load f source name with
    | ok m =>
      refine Or.inl ⟨name, m, .load hm, ?_⟩
      rw [step, Step.perform, load_eq_ok_iff.2 ⟨hm, rfl⟩]
      rfl
    | error p =>
      refine Or.inr (Or.inr ⟨nofun, fun other m h => ?_, ?_⟩)
      · cases h with
        | load h => cases hm.symm.trans h
      · rw [step, Step.perform, load_eq_error hm]
        rfl
  | reload f name =>
    cases hold : r.get? name with
    | none =>
      refine Or.inr (Or.inr ⟨nofun, fun other m h => ?_, ?_⟩)
      · cases h with
        | reload hold' => cases hold.symm.trans hold'
      · rw [step, Step.perform, reload_eq_error hold]
        rfl
    | some old =>
      cases hm : Model.load f old.source name with
      | ok m =>
        refine Or.inl ⟨name, m, .reload hold hm, ?_⟩
        rw [step, Step.perform, reload_eq hold, load_eq_ok_iff.2 ⟨hm, rfl⟩]
        rfl
      | error p =>
        refine Or.inr (Or.inr ⟨nofun, fun other m h => ?_, ?_⟩)
        · cases h with
          | reload hold' h =>
            rw [Option.some.inj (hold'.symm.trans hold)] at h
            cases hm.symm.trans h
        · rw [step, Step.perform, reload_eq hold, load_eq_error hm]
          rfl
  | remove name => exact Or.inr (Or.inl ⟨name, rfl, rfl⟩)
  | take name =>
    refine Or.inr (Or.inr ⟨nofun, nofun, ?_⟩)
    rw [step, Step.perform]
    cases r.find name <;> rfl

/-- The models stand in the order of their names. -/
theorem sorted_step (hr : r.models.Sorted) (op : Step) : (r.step op).models.Sorted := by
  rcases step_cases r op with ⟨name, m, -, hstep⟩ | ⟨name, -, hstep⟩ | ⟨-, -, hstep⟩
  · rw [hstep]
    exact hr.insertSorted m.name m
  · rw [hstep]
    exact hr.erase name
  · rwa [hstep]

/-- After a step a name has the model that the step makes for it, or the one that it had, unless that is taken out. -/
theorem get?_step (hr : r.models.Sorted) {op : Step} :
    (r.step op).get? name = some m ↔
      op.Makes r name m ∨ r.get? name = some m ∧ ¬ (op = .remove name ∨ ∃ m', op.Makes r name m') := by
  rcases step_cases r op with ⟨other, made, hmakes, hstep⟩ | ⟨other, rfl, hstep⟩ | ⟨hremove, hmakes, hstep⟩
  · have hnot : op ≠ .remove name := by
      rintro rfl
      cases hmakes
    have hname := hmakes.model_name
    rw [hstep]
    by_cases hother : made.name = name
    · have hself : (r.register made).get? name = some made := hother ▸ get?_register_self r made
      have hmakes' : op.Makes r name made := by rwa [← hother, hname]
      rw [hself]
      constructor
      · intro h
        exact Or.inl (Option.some.inj h ▸ hmakes')
      · rintro (h | ⟨-, h⟩)
        · rw [(h.unique hmakes').2]
        · exact absurd (Or.inr ⟨made, hmakes'⟩) h
    · have hnone : ∀ m', ¬ op.Makes r name m' := fun m' h => hother (by rw [hname, (hmakes.unique h).1])
      rw [get?_register_of_ne hother]
      simp [hnone, hnot]
  · have hmakes : ∀ m', ¬ Step.Makes r name m' (.remove other) := nofun
    rw [hstep]
    by_cases hother : other = name
    · subst hother
      have hgone : Registry.get? ⟨r.models.erase other⟩ other = none :=
        Assoc.get?_eq_none_iff.2 (hr.distinct.not_mem_keys_erase other)
      simp [hgone, hmakes]
    · have hkept : Registry.get? ⟨r.models.erase other⟩ name = r.get? name := Assoc.get?_erase_of_ne hother
      simp [hkept, hother, hmakes]
  · rw [hstep]
    simp [hremove, hmakes]

/-- After a step there is a model of a name when the step loads one, or when there was one that is not taken out. -/
theorem exists_get?_step (hr : r.models.Sorted) {op : Step} :
    (∃ m, (r.step op).get? name = some m) ↔
      (∃ source, op.Loads name source) ∨ (∃ m, r.get? name = some m) ∧ op ≠ .remove name := by
  simp only [get?_step hr, exists_or]
  constructor
  · rintro (⟨m, hm⟩ | ⟨m, hm, hkept⟩)
    · rcases hm.loads_or with hloads | ⟨⟨old, hold, -⟩, -⟩
      · exact Or.inl ⟨_, hloads⟩
      · refine Or.inr ⟨⟨old, hold⟩, ?_⟩
        rintro rfl
        cases hm
    · exact Or.inr ⟨⟨m, hm⟩, fun hremove => hkept (Or.inl hremove)⟩
  · rintro (⟨source, hloads⟩ | ⟨⟨m, hm⟩, hremove⟩)
    · obtain ⟨m, hm, -⟩ := hloads.makes r
      exact Or.inl ⟨m, hm⟩
    · by_cases hmakes : ∃ m', op.Makes r name m'
      · exact Or.inl hmakes
      · exact Or.inr ⟨m, hm, not_or.2 ⟨hremove, hmakes⟩⟩

/-- After a step the model of a name comes from a source when the step loads it from there, or when it came from there
before and is neither loaded from a source nor taken out. -/
theorem exists_source_step (hr : r.models.Sorted) {op : Step} {source : String} :
    (∃ m, (r.step op).get? name = some m ∧ m.source = source) ↔
      op.Loads name source ∨
        (∃ m, r.get? name = some m ∧ m.source = source) ∧ ¬ (op = .remove name ∨ ∃ other, op.Loads name other) := by
  simp only [get?_step hr]
  constructor
  · rintro ⟨m, hm | ⟨hm, hkept⟩, rfl⟩
    · rcases hm.loads_or with hloads | ⟨⟨old, hold, hsame⟩, hnot⟩
      · exact Or.inl hloads
      · refine Or.inr ⟨⟨old, hold, hsame.symm⟩, ?_⟩
        rintro (rfl | ⟨other, hloads⟩)
        · cases hm
        · exact hnot other hloads
    · refine Or.inr ⟨⟨m, hm, rfl⟩, fun hor => hkept (hor.imp_right fun ⟨other, hloads⟩ => ?_)⟩
      obtain ⟨m', hm', -⟩ := hloads.makes r
      exact ⟨m', hm'⟩
  · rintro (hloads | ⟨⟨old, hold, rfl⟩, hkept⟩)
    · obtain ⟨m, hm, hsource⟩ := hloads.makes r
      exact ⟨m, Or.inl hm, hsource⟩
    · by_cases hmakes : ∃ m', op.Makes r name m'
      · -- it is loaded again, from the source that it had
        obtain ⟨m', hm'⟩ := hmakes
        rcases hm'.loads_or with hloads | ⟨⟨old', hold', hsame⟩, -⟩
        · exact absurd (Or.inr ⟨_, hloads⟩) hkept
        · rw [hold] at hold'
          exact ⟨m', Or.inl hm', by rw [hsame, Option.some.inj hold']⟩
      · exact ⟨old, Or.inr ⟨hold, fun hor => hor.elim (fun hremove => hkept (Or.inl hremove)) hmakes⟩, rfl⟩

theorem run_append_singleton (steps : List Step) (op : Step) : run (steps ++ [op]) = (run steps).step op := by
  rw [run, List.foldl_append]
  rfl

theorem sorted_run (steps : List Step) : (run steps).models.Sorted := by
  induction steps using List.reverseRecOn with
  | nil => exact List.Pairwise.nil
  | append_singleton steps op ih =>
    rw [run_append_singleton]
    exact sorted_step ih op

/-- There is a model of a name when one was loaded and not taken out since. -/
theorem exists_get?_run_iff (steps : List Step) (name : String) :
    (∃ m, (run steps).get? name = some m) ↔
      Since (fun _ op => ∃ source, op.Loads name source) (fun _ op => op = .remove name) steps := by
  induction steps using List.reverseRecOn with
  | nil => exact ⟨nofun, fun h => absurd h not_since_nil⟩
  | append_singleton steps op ih =>
    rw [run_append_singleton, exists_get?_step (sorted_run steps), since_append_singleton, ih]

/-- The model of a name is the one that was made last and not taken out since. -/
theorem get?_run_iff (steps : List Step) (name : String) (m : Model) :
    (run steps).get? name = some m ↔
      Since (fun earlier op => op.Makes (run earlier) name m)
        (fun earlier op => op = .remove name ∨ ∃ m', op.Makes (run earlier) name m') steps := by
  induction steps using List.reverseRecOn with
  | nil => exact ⟨nofun, fun h => absurd h not_since_nil⟩
  | append_singleton steps op ih =>
    rw [run_append_singleton, get?_step (sorted_run steps), since_append_singleton, ih]

/-- The model of a name comes from the source that it was loaded from last, though it may have been loaded again. -/
theorem exists_source_run_iff (steps : List Step) (name source : String) :
    (∃ m, (run steps).get? name = some m ∧ m.source = source) ↔
      Since (fun _ op => op.Loads name source) (fun _ op => op = .remove name ∨ ∃ other, op.Loads name other) steps := by
  induction steps using List.reverseRecOn with
  | nil => exact ⟨nofun, fun h => absurd h not_since_nil⟩
  | append_singleton steps op ih =>
    rw [run_append_singleton, exists_source_step (sorted_run steps), since_append_singleton, ih]

/-- A registry in memory: the models that were made, each in a cell of its own, the cell under each name, and the cells
that were taken. -/
structure Shelf where
  cells : List Model
  entries : Assoc Nat
  taken : List Nat

namespace Shelf

variable {s s' : Shelf}

/-- Nothing in memory. -/
def empty : Shelf :=
  ⟨[], [], []⟩

/-- What stands in the cell under a name. -/
def inCell? (cells : List Model) (e : String × Nat) : Option (String × Model) :=
  (cells[e.2]?).map fun m => (e.1, m)

/-- The registry that is in memory. -/
def registry (s : Shelf) : Registry :=
  ⟨s.entries.filterMap (inCell? s.cells)⟩

/-- What the one sees who was the first, the second and so on to take a model. -/
def seen? (s : Shelf) (i : Nat) : Option Model :=
  s.taken[i]?.bind fun cell => s.cells[cell]?

/-- Whether every name has a cell that is there. -/
def Sound (s : Shelf) : Prop :=
  ∀ e ∈ s.entries, e.2 < s.cells.length

/-- Whether memory comes from memory by adding cells and taking more of them. -/
structure Grows (s s' : Shelf) : Prop where
  cells : s.cells <+: s'.cells
  taken : s.taken <+: s'.taken

/-- The cell of a name with what is in it, or the failure that there is none. -/
def find (s : Shelf) (name : String) : Except ModelError (Nat × Model) :=
  match s.entries.get? name with
  | none => .error (.modelNotLoaded name)
  | some cell =>
    match s.cells[cell]? with
    | none => .error (.modelNotLoaded name)
    | some m => .ok (cell, m)

/-- Put a model into a new cell, and the cell under the name of the model. -/
def publish (s : Shelf) (m : Model) : Shelf :=
  { s with cells := s.cells ++ [m], entries := s.entries.insertSorted m.name s.cells.length }

theorem Grows.refl (s : Shelf) : s.Grows s :=
  ⟨List.prefix_rfl, List.prefix_rfl⟩

theorem Grows.trans {s'' : Shelf} (h : s.Grows s') (h' : s'.Grows s'') : s.Grows s'' :=
  ⟨h.cells.trans h'.cells, h.taken.trans h'.taken⟩

/-- Cells are not written again: what was seen is seen. -/
theorem Grows.seen? (h : s.Grows s') {i : Nat} {m : Model} (hseen : s.seen? i = some m) : s'.seen? i = some m := by
  obtain ⟨cell, hcell, hm⟩ := Option.bind_eq_some_iff.1 hseen
  obtain ⟨hi, rfl⟩ := List.getElem?_eq_some_iff.1 hcell
  obtain ⟨hlt, rfl⟩ := List.getElem?_eq_some_iff.1 hm
  exact Option.bind_eq_some_iff.2
    ⟨_, List.prefix_iff_getElem?.1 h.taken i hi, List.prefix_iff_getElem?.1 h.cells _ hlt⟩

section Entries

variable {cells : List Model} {entries : Assoc Nat}

theorem inCell?_of_lt {e : String × Nat} (h : e.2 < cells.length) : inCell? cells e = some (e.1, cells[e.2]) := by
  rw [inCell?, List.getElem?_eq_getElem h]
  rfl

theorem get?_filterMap_inCell (h : ∀ e ∈ entries, e.2 < cells.length) (name : String) :
    Assoc.get? (entries.filterMap (inCell? cells)) name = (entries.get? name).bind fun cell => cells[cell]? := by
  induction entries with
  | nil => rfl
  | cons e entries ih =>
    obtain ⟨k, cell⟩ := e
    rw [List.forall_mem_cons] at h
    rw [List.filterMap_cons_some (inCell?_of_lt h.1), Assoc.get?_cons, Assoc.get?_cons, ih h.2]
    split
    · exact (List.getElem?_eq_getElem h.1).symm
    · rfl

theorem filterMap_erase (h : ∀ e ∈ entries, e.2 < cells.length) (name : String) :
    (entries.erase name).filterMap (inCell? cells) = Assoc.erase (entries.filterMap (inCell? cells)) name := by
  induction entries with
  | nil => rfl
  | cons e entries ih =>
    obtain ⟨k, cell⟩ := e
    rw [List.forall_mem_cons] at h
    rw [List.filterMap_cons_some (inCell?_of_lt h.1), Assoc.erase, Assoc.erase]
    split
    · rfl
    · rw [List.filterMap_cons_some (inCell?_of_lt h.1), ih h.2]

/-- A new cell leaves the others as they are, and comes to stand where its name belongs. -/
theorem filterMap_insertSorted (h : ∀ e ∈ entries, e.2 < cells.length) (m : Model) :
    (entries.insertSorted m.name cells.length).filterMap (inCell? (cells ++ [m])) =
      Assoc.insertSorted (entries.filterMap (inCell? cells)) m.name m := by
  have hnew : inCell? (cells ++ [m]) (m.name, cells.length) = some (m.name, m) := by
    rw [inCell?, List.getElem?_concat_length]
    rfl
  have hold : ∀ e : String × Nat, e.2 < cells.length → inCell? (cells ++ [m]) e = inCell? cells e := by
    intro e he
    rw [inCell?, List.getElem?_append_left he, inCell?]
  induction entries with
  | nil => exact List.filterMap_cons_some hnew
  | cons e entries ih =>
    obtain ⟨k, cell⟩ := e
    have hrest : entries.filterMap (inCell? (cells ++ [m])) = entries.filterMap (inCell? cells) :=
      List.filterMap_congr fun e he => hold e (h e (List.mem_cons_of_mem _ he))
    rw [List.forall_mem_cons] at h
    have hfirst := (hold _ h.1).trans (inCell?_of_lt h.1)
    rw [List.filterMap_cons_some (inCell?_of_lt h.1), Assoc.insertSorted, Assoc.insertSorted]
    split
    · rw [List.filterMap_cons_some hnew, List.filterMap_cons_some hfirst, hrest]
    split
    next hk =>
      subst hk
      rw [List.filterMap_cons_some hnew, hrest]
    next => rw [List.filterMap_cons_some hfirst, ih h.2]

end Entries

theorem cell_of_find {name : String} {cell : Nat} {m : Model} (h : s.find name = .ok (cell, m)) :
    s.cells[cell]? = some m := by
  rw [find] at h
  split at h
  · cases h
  split at h
  · cases h
  next hm =>
    cases h
    exact hm

theorem find_registry (hs : s.Sound) (name : String) : s.registry.find name = (s.find name).map Prod.snd := by
  rw [Registry.find, Registry.get?, registry, get?_filterMap_inCell hs, find]
  cases s.entries.get? name with
  | none => rfl
  | some cell => cases h : s.cells[cell]? <;> simp [h, Except.map]

theorem registry_publish (hs : s.Sound) (m : Model) : (s.publish m).registry = s.registry.register m := by
  rw [registry, publish, filterMap_insertSorted hs]
  rfl

theorem Sound.publish (hs : s.Sound) (m : Model) : (s.publish m).Sound := by
  intro e he
  have hlength : (s.publish m).cells.length = s.cells.length + 1 := List.length_append
  rw [hlength]
  rcases Assoc.mem_insertSorted he with rfl | he
  · exact Nat.lt_succ_self _
  · exact Nat.lt_succ_of_lt (hs e he)

theorem grows_publish (s : Shelf) (m : Model) : s.Grows (s.publish m) :=
  ⟨List.prefix_append _ _, List.prefix_rfl⟩

end Shelf

namespace Step

open Program

/-- The model of a source, or the failure to parse it. -/
def readModel (f : Files) (source name : String) : Except ModelError Model :=
  (Model.load f source name).mapError .parse

/-- Put a model into a new cell, and then the cell under the name of the model. -/
def publishProgram (m : Model) : Program ModelError Shelf (Option Model) := do
  let s ← get
  modify fun s => { s with cells := s.cells ++ [m] }
  modify fun s' => { s' with entries := s'.entries.insertSorted m.name s.cells.length }
  return some m

/-- A step in memory: whatever can fail is looked at first. -/
def program : Step → Program ModelError Shelf (Option Model)
  | .load f source name => do
    let m ← require fun _ => readModel f source name
    publishProgram m
  | .reload f name => do
    let (_, old) ← require fun s => s.find name
    let m ← require fun _ => readModel f old.source name
    publishProgram m
  | .remove name => do
    let s ← get
    modify fun s => { s with entries := s.entries.erase name }
    return s.registry.get? name
  | .take name => do
    let (cell, m) ← require fun s => s.find name
    modify fun s => { s with taken := s.taken ++ [cell] }
    return some m

theorem settles_publish (m : Model) : (publishProgram m).Settles fun s => .ok (some m, s.publish m) :=
  fun _ => rfl

/-- What comes of a step in memory. -/
def onShelf (s : Shelf) : Step → Except ModelError (Option Model × Shelf)
  | .load f source name => do
    let m ← readModel f source name
    .ok (some m, s.publish m)
  | .reload f name => do
    let (_, old) ← s.find name
    let m ← readModel f old.source name
    .ok (some m, s.publish m)
  | .remove name => .ok (s.registry.get? name, { s with entries := s.entries.erase name })
  | .take name => do
    let (cell, m) ← s.find name
    .ok (some m, { s with taken := s.taken ++ [cell] })

theorem settles_program (op : Step) : op.program.Settles fun s => op.onShelf s := by
  cases op with
  | load f source name => exact (checks_require _).bind fun m => settles_publish m
  | reload f name => exact (checks_require _).bind fun _ => (checks_require _).bind fun m => settles_publish m
  | remove name => exact fun _ => rfl
  | take name => exact (checks_require _).bind fun _ _ => rfl

theorem load_eq_readModel (r : Registry) (f : Files) (source name : String) :
    r.load f source name = (readModel f source name).map fun m => (m, r.register m) := by
  rw [Registry.load, readModel]
  cases Model.load f source name <;> rfl

/-- Whether what comes of a step in memory is what comes of it with the registry that is there, and nothing that was in
memory before is written again. -/
def Carries (s : Shelf) (inMemory : Except ModelError (Option Model × Shelf))
    (result : Except ModelError (Option Model × Registry)) : Prop :=
  result = inMemory.map (fun p => (p.1, p.2.registry)) ∧ ∀ a s', inMemory = .ok (a, s') → s'.Sound ∧ s.Grows s'

/-- A model that is made is put into memory as it is put into the registry. -/
theorem carries_publish {s : Shelf} (hs : s.Sound) (f : Files) (source name : String) :
    Carries s (readModel f source name >>= fun m => .ok (some m, s.publish m))
      (s.registry.load f source name >>= fun p => .ok (some p.1, p.2)) := by
  rw [load_eq_readModel]
  cases readModel f source name with
  | error e => exact ⟨rfl, nofun⟩
  | ok m =>
    refine ⟨?_, fun a s' h => ?_⟩
    · change _ = Except.ok (some m, (s.publish m).registry)
      rw [Shelf.registry_publish hs]
      rfl
    · cases h
      exact ⟨hs.publish m, s.grows_publish m⟩

theorem onShelf_carries {s : Shelf} (hs : s.Sound) (op : Step) : Carries s (op.onShelf s) (op.perform s.registry) := by
  cases op with
  | load f source name => exact carries_publish hs f source name
  | reload f name =>
    rw [perform, Registry.reload, Shelf.find_registry hs, onShelf]
    cases s.find name with
    | error e => exact ⟨rfl, nofun⟩
    | ok p => exact carries_publish hs f p.2.source name
  | remove name =>
    refine ⟨?_, fun a s' h => ?_⟩
    · have herased : Shelf.registry { s with entries := s.entries.erase name } = ⟨s.registry.models.erase name⟩ :=
        congrArg Registry.mk (Shelf.filterMap_erase hs name)
      change _ = Except.ok (s.registry.get? name, Shelf.registry { s with entries := s.entries.erase name })
      rw [herased]
      rfl
    · cases h
      exact ⟨fun e he => hs e (Assoc.mem_of_mem_erase he), List.prefix_rfl, List.prefix_rfl⟩
  | take name =>
    rw [perform, Shelf.find_registry hs, onShelf]
    cases s.find name with
    | error e => exact ⟨rfl, nofun⟩
    | ok p =>
      refine ⟨rfl, fun a s' h => ?_⟩
      cases h
      exact ⟨hs, List.prefix_rfl, List.prefix_append _ _⟩

/-- In memory a step gives the answer or the failure that it gives with the registry, and leaves what the registry holds
then. When it fails it leaves memory as it was. -/
theorem program_carries {s : Shelf} (hs : s.Sound) (op : Step) :
    match op.program.run s with
    | .ok a s' => op.perform s.registry = .ok (a, s'.registry) ∧ s'.Sound ∧ s.Grows s'
    | .error e s' => op.perform s.registry = .error e ∧ s' = s := by
  obtain ⟨hsame, hgrows⟩ := onShelf_carries hs op
  rw [settles_program op s, hsame]
  dsimp only
  cases h : op.onShelf s with
  | error e => exact ⟨rfl, rfl⟩
  | ok p => exact ⟨rfl, hgrows p.1 p.2 h⟩

end Step

namespace Shelf

/-- Memory after a step, whether it fails or not. -/
def step (s : Shelf) (op : Step) : Shelf :=
  op.program.final s

/-- Memory after several steps, with nothing in it at first. -/
def run (steps : List Step) : Shelf :=
  steps.foldl step empty

variable {s : Shelf}

theorem step_carries (hs : s.Sound) (op : Step) :
    (s.step op).Sound ∧ s.Grows (s.step op) ∧ (s.step op).registry = s.registry.step op := by
  have hcarries := op.program_carries hs
  rw [step, Program.final, Registry.step]
  cases hrun : op.program.run s with
  | ok a s' =>
    rw [hrun] at hcarries
    obtain ⟨hperform, hsound, hgrows⟩ := hcarries
    rw [hperform]
    exact ⟨hsound, hgrows, rfl⟩
  | error e s' =>
    rw [hrun] at hcarries
    obtain ⟨hperform, rfl⟩ := hcarries
    rw [hperform]
    exact ⟨hs, .refl _, rfl⟩

theorem run_append (steps more : List Step) : run (steps ++ more) = more.foldl step (run steps) :=
  List.foldl_append

/-- After the same steps the registry is what is in memory. -/
theorem run_carries (steps : List Step) : (run steps).Sound ∧ (run steps).registry = Registry.run steps := by
  induction steps using List.reverseRecOn with
  | nil => exact ⟨nofun, rfl⟩
  | append_singleton steps op ih =>
    obtain ⟨hs, -, hstep⟩ := step_carries ih.1 op
    rw [run_append, run_append_singleton, ← ih.2]
    exact ⟨hs, hstep⟩

/-- Memory only grows. -/
theorem grows_run (steps more : List Step) : (run steps).Grows (run (steps ++ more)) := by
  induction more using List.reverseRecOn with
  | nil => rw [List.append_nil]; exact .refl _
  | append_singleton more op ih =>
    obtain ⟨-, hgrows, -⟩ := step_carries (run_carries (steps ++ more)).1 op
    rw [← List.append_assoc, run_append (steps ++ more)]
    exact ih.trans hgrows

/-- Who takes a model sees it. -/
theorem seen?_take (hs : s.Sound) {name : String} {m : Model} (hm : s.registry.find name = .ok m) :
    (s.step (.take name)).seen? s.taken.length = some m := by
  rw [find_registry hs] at hm
  cases hfind : s.find name with
  | error e => rw [hfind] at hm; cases hm
  | ok p =>
    obtain ⟨cell, m'⟩ := p
    rw [hfind] at hm
    cases hm
    have hstep : s.step (.take name) = { s with taken := s.taken ++ [cell] } := by
      rw [step, (Step.settles_program _).final, Step.onShelf, hfind]
      rfl
    rw [hstep, seen?, List.getElem?_concat_length]
    exact cell_of_find hfind

end Shelf

theorem mem_names_iff {name : String} : name ∈ r.names ↔ (r.get? name).isSome = true := by
  rw [Option.isSome_iff_ne_none, Ne, get?, Assoc.get?_eq_none_iff, not_not]
  rfl

/-- What a registry holds after a run, and what is in memory then. -/
structure HoldsLast (steps : List Step) : Prop where
  /-- There is a model of a name when one was loaded and not taken out since. -/
  present : ∀ name, ((run steps).get? name).isSome = true ↔
    Since (fun _ op => ∃ source, op.Loads name source) (fun _ op => op = .remove name) steps
  /-- It is the one that was made last. -/
  last : ∀ name m, (run steps).get? name = some m ↔
    Since (fun earlier op => op.Makes (run earlier) name m)
      (fun earlier op => op = .remove name ∨ ∃ m', op.Makes (run earlier) name m') steps
  /-- It has the name, and the source that was loaded last. -/
  source : ∀ name m, (run steps).get? name = some m → m.name = name ∧
    Since (fun _ op => op.Loads name m.source) (fun _ op => op = .remove name ∨ ∃ other, op.Loads name other) steps
  /-- To load it again is to make a model of what this source says by then. -/
  again : ∀ f name m, (run steps).get? name = some m →
    (run steps).reload f name =
      match f.readSource m.source >>= Model.ofText name m.source with
      | .ok m' => .ok (m', (run steps).register m')
      | .error p => .error (.parse p)
  /-- In memory there is what the registry holds, and a step that fails leaves it as it was. -/
  inMemory : (Shelf.run steps).registry = run steps ∧ ∀ op : Step,
    match op.program.run (Shelf.run steps) with
    | .ok a s' => op.perform (run steps) = .ok (a, s'.registry)
    | .error e s' => op.perform (run steps) = .error e ∧ s' = Shelf.run steps
  /-- Who has taken a model sees the one that was there then. -/
  taken : ∀ earlier name later store h, steps = earlier ++ .take name :: later →
    Library.select ⟨run earlier, store⟩ name = .ok h →
      (Shelf.run steps).seen? (Shelf.run earlier).taken.length = some h.model
  /-- The names are those under which there is a model, in order and each once. -/
  names : (run steps).names.Pairwise (· < ·) ∧
    ∀ name, name ∈ (run steps).names ↔ ((run steps).get? name).isSome = true

/-- After every run of steps, whatever becomes of the files between them, a registry holds the last complete models. -/
theorem last_models_held (steps : List Step) : HoldsLast steps where
  present name := by
    rw [Option.isSome_iff_exists]
    exact exists_get?_run_iff steps name
  last := get?_run_iff steps
  source name m hm := by
    obtain ⟨earlier, op, later, -, hmakes, -⟩ := (get?_run_iff steps name m).1 hm
    exact ⟨hmakes.model_name, (exists_source_run_iff steps name m.source).1 ⟨m, hm, rfl⟩⟩
  again f name m hm := by
    rw [reload_eq hm]
    rfl
  inMemory := by
    obtain ⟨hsound, hsame⟩ := Shelf.run_carries steps
    refine ⟨hsame, fun op => ?_⟩
    have hcarries := op.program_carries hsound
    rw [hsame] at hcarries
    cases hrun : op.program.run (Shelf.run steps) with
    | ok a s' =>
      rw [hrun] at hcarries
      exact hcarries.1
    | error e s' =>
      rw [hrun] at hcarries
      exact hcarries
  taken earlier name later store h hsteps hselect := by
    obtain ⟨m, hm, hh⟩ := bind_eq_ok_iff.1 hselect
    rw [ok_eq_ok_iff.1 hh]
    obtain ⟨hsound, hsame⟩ := Shelf.run_carries earlier
    rw [← hsame] at hm
    have hseen := Shelf.seen?_take hsound hm
    have hgrows := Shelf.grows_run (earlier ++ [.take name]) later
    rw [List.append_assoc, List.singleton_append, ← hsteps, Shelf.run_append earlier] at hgrows
    exact hgrows.seen? hseen
  names := ⟨sorted_run steps, fun _ => mem_names_iff⟩

end Registry

end DataModel

import DataModel.Proofs.Storage

/-!
# Operations in place

The operations of the store as programs that change the tables in place, step by step, as they are carried out
in memory: what a program has changed when it fails stays changed. A program settles as a function does when
it leaves the state that the function gives, and no trace when the function fails. Looking at the state before
changing it settles (`Program.Checks`), and so does changing it when nothing after that can fail
(`Program.Always`).
-/

namespace DataModel

/-- A program that changes a state in place. When it fails, the state stays as it is then. -/
abbrev Program (ε σ α : Type) := EStateM ε σ α

namespace Program

variable {ε ε' σ α β : Type}

/-- Look at the state, and fail when it is not as it should be. -/
def require (f : σ → Except ε α) : Program ε σ α := fun s =>
  match f s with
  | .ok a => .ok a s
  | .error e => .error e s

/-- Whether a program only looks at the state, as a function does. -/
def Checks (p : Program ε σ α) (f : σ → Except ε α) : Prop :=
  ∀ s, p.run s = match f s with
    | .ok a => .ok a s
    | .error e => .error e s

/-- Whether a program does not fail, and what it leaves. -/
def Always (p : Program ε σ α) (f : σ → α × σ) : Prop :=
  ∀ s, p.run s = .ok (f s).1 (f s).2

/-- Whether a program leaves the state that a function gives, and no trace when the function fails. -/
def Settles (p : Program ε σ α) (f : σ → Except ε (α × σ)) : Prop :=
  ∀ s, p.run s = match f s with
    | .ok (a, s') => .ok a s'
    | .error e => .error e s

/-- The state that a program leaves, whether it fails or not. -/
def final (p : Program ε σ α) (s : σ) : σ :=
  match p.run s with
  | .ok _ s' | .error _ s' => s'

theorem checks_require (f : σ → Except ε α) : Checks (require f) f :=
  fun _ => rfl

theorem always_modify (f : σ → σ) : Always (modify f : Program ε σ Unit) fun s => ((), f s) :=
  fun _ => rfl

theorem always_pure (a : α) : Always (pure a : Program ε σ α) fun s => (a, s) :=
  fun _ => rfl

theorem run_bind (p : Program ε σ β) (q : β → Program ε σ α) (s : σ) :
    (p >>= q).run s = match p.run s with
      | .ok b s' => (q b).run s'
      | .error e s' => .error e s' :=
  rfl

/-- To look at the state and then to look again is to look. -/
theorem Checks.andThen {p : Program ε σ β} {f : σ → Except ε β} {q : β → Program ε σ α} {g : β → σ → Except ε α}
    (hp : p.Checks f) (hq : ∀ b, (q b).Checks (g b)) : (p >>= q).Checks fun s => f s >>= fun b => g b s := by
  intro s
  rw [run_bind, hp s]
  dsimp only
  cases f s with
  | error e => rfl
  | ok b => exact hq b s

/-- What comes after a check settles with it. -/
theorem Checks.bind {p : Program ε σ β} {f : σ → Except ε β} {q : β → Program ε σ α}
    {g : β → σ → Except ε (α × σ)} (hp : p.Checks f) (hq : ∀ b, (q b).Settles (g b)) :
    (p >>= q).Settles fun s => f s >>= fun b => g b s := by
  intro s
  rw [run_bind, hp s]
  dsimp only
  cases f s with
  | error e => rfl
  | ok b => exact hq b s

/-- What cannot fail may come after a change. -/
theorem Settles.bind {p : Program ε σ β} {f : σ → Except ε (β × σ)} {q : β → Program ε σ α} {g : β → σ → α × σ}
    (hp : p.Settles f) (hq : ∀ b, (q b).Always (g b)) :
    (p >>= q).Settles fun s => f s >>= fun r => .ok (g r.1 r.2) := by
  intro s
  rw [run_bind, hp s]
  dsimp only
  cases f s with
  | error e => rfl
  | ok r => exact hq r.1 r.2

theorem Always.bind {p : Program ε σ β} {f : σ → β × σ} {q : β → Program ε σ α} {g : β → σ → α × σ}
    (hp : p.Always f) (hq : ∀ b, (q b).Always (g b)) : (p >>= q).Always fun s => g (f s).1 (f s).2 := by
  intro s
  rw [run_bind, hp s]
  exact hq _ _

theorem Always.settles {p : Program ε σ α} {f : σ → α × σ} (h : p.Always f) : p.Settles fun s => .ok (f s) :=
  h

theorem Settles.congr {p : Program ε σ α} {f g : σ → Except ε (α × σ)} (h : p.Settles f) (hfg : ∀ s, f s = g s) :
    p.Settles g :=
  fun s => hfg s ▸ h s

/-- A program whose failures are read in another way settles as before. -/
theorem Settles.adapt {p : Program ε σ α} {f : σ → Except ε (α × σ)} (h : p.Settles f) (g : ε → ε') :
    Settles (EStateM.adaptExcept g p) fun s => (f s).mapError g := by
  intro s
  have hs : p s = _ := h s
  simp only [EStateM.run, EStateM.adaptExcept, hs]
  cases f s <;> rfl

theorem Settles.run_ok {p : Program ε σ α} {f : σ → Except ε (α × σ)} (h : p.Settles f) {s s' : σ} {a : α}
    (hf : f s = .ok (a, s')) : p.run s = .ok a s' := by
  rw [h s, hf]

theorem Settles.run_error {p : Program ε σ α} {f : σ → Except ε (α × σ)} (h : p.Settles f) {s : σ}
    (hf : ∀ r, f s ≠ .ok r) : ∃ e, p.run s = .error e s := by
  rw [h s]
  cases hs : f s with
  | ok r => exact absurd hs (hf r)
  | error e => exact ⟨e, rfl⟩

theorem Settles.final {p : Program ε σ α} {f : σ → Except ε (α × σ)} (h : p.Settles f) (s : σ) :
    p.final s = match f s with
      | .ok (_, s') => s'
      | .error _ => s := by
  rw [Program.final, h s]
  cases f s <;> rfl

theorem final_discard (p : Program ε σ α) (s : σ) : (discard p : Program ε σ Unit).final s = p.final s := by
  have hrun : (discard p : Program ε σ Unit).run s = match p.run s with
    | .ok _ s' => .ok () s'
    | .error e s' => .error e s' := rfl
  rw [final, hrun, final]
  cases p.run s <;> rfl

/-- A failure leaves the state as it was. -/
theorem Settles.no_trace {p : Program ε σ α} {f : σ → Except ε (α × σ)} (h : p.Settles f) {s s' : σ} {e : ε}
    (he : p.run s = .error e s') : s' = s ∧ f s = .error e := by
  rw [h s] at he
  cases hf : f s with
  | ok r =>
    rw [hf] at he
    cases he
  | error e' =>
    rw [hf] at he
    cases he
    exact ⟨rfl, rfl⟩

/-- To check every item of a list is to check. -/
theorem checks_forM (f : β → σ → Except ε Unit) (items : List β) :
    Checks (items.forM fun b => require (f b)) fun s => items.forM fun b => f b s := by
  induction items with
  | nil => exact fun s => rfl
  | cons b items ih => exact (checks_require (f b)).andThen fun _ => ih

/-- To change the state for every item of a list cannot fail. -/
theorem always_forM (f : σ → β → σ) (items : List β) :
    Always (items.forM fun b => modify fun s => f s b : Program ε σ Unit) fun s => ((), items.foldl f s) := by
  induction items with
  | nil => exact fun s => rfl
  | cons b items ih => exact fun s => ih (f s b)

end Program

namespace Table

open Program

/-- Insert a row: it is built and its key is looked for, and then the number that comes next is moved on and the row
added. -/
def insertProgram (name : String) (values : Record) : Program StoreError Table Value := do
  let (row, nextId) ← require fun t => t.build name values t.nextId
  require fun t => t.checkPrimaryKeys name [row]
  modify fun t => { t with nextId }
  modify fun t => { t with rows := t.rows ++ [row] }
  let t ← get
  return match t.primaryKey with
    | some key => row.cell key
    | none => .null

/-- Insert several rows: all of them are built and their keys looked for, and then they are added one by one. -/
def insertAllProgram (name : String) (columns : List String) (rows : List (List Value)) :
    Program StoreError Table Nat := do
  let (built, nextId) ← require fun t => t.buildAll name columns t.nextId rows
  require fun t => t.checkPrimaryKeys name built
  modify fun t => { t with nextId }
  built.forM fun row => modify fun t => { t with rows := t.rows ++ [row] }
  return built.length

/-- Set cells of the rows that pass a filter. -/
def updateProgram (name : String) (filter : List Where) (values : Record) : Program StoreError Table Nat := do
  require fun t => t.checkFilter name filter
  require fun t => t.checkColumns name values.keys
  let t ← get
  modify fun t => { t with rows := t.rows.map fun r => if r.passes filter then r.extend values else r }
  return (t.matching filter).length

/-- Remove the rows that pass a filter. -/
def deleteProgram (name : String) (filter : List Where) : Program StoreError Table Nat := do
  require fun t => t.checkFilter name filter
  let t ← get
  modify fun t => { t with rows := t.rows.filter fun r => !r.passes filter }
  return (t.matching filter).length

/-- Change columns and add columns: each is looked at, and then they are added and changed one by one. -/
def alterProgram (name : String) (d : TableDiff) : Program StoreError Table Unit := do
  d.change.forM fun c => require fun t => t.checkChange name c
  d.add.forM fun c => require fun t => t.checkAddition name c
  d.add.forM fun c => modify fun t => t.addColumn c
  d.change.forM fun c => modify fun t => t.changeColumn c

theorem settles_insert (name : String) (values : Record) :
    (insertProgram name values).Settles fun t => t.insert name values :=
  (checks_require _).bind fun _ => (checks_require _).bind fun _ _ => rfl

theorem foldl_addRow (rows : List Record) (t : Table) :
    rows.foldl (fun t row => { t with rows := t.rows ++ [row] }) t = { t with rows := t.rows ++ rows } := by
  induction rows generalizing t with
  | nil => rw [List.append_nil]; rfl
  | cons row rows ih => rw [List.foldl_cons, ih, List.append_assoc]; rfl

theorem settles_insertAll (name : String) (columns : List String) (rows : List (List Value)) :
    (insertAllProgram name columns rows).Settles fun t => t.insertAll name columns rows := by
  refine (checks_require _).bind fun (built, nextId) => (checks_require _).bind fun _ => ?_
  have hadded := always_forM (ε := StoreError) (fun (t : Table) row => { t with rows := t.rows ++ [row] }) built
  simp only [foldl_addRow] at hadded
  exact ((always_modify _).bind fun _ => hadded.bind fun _ => always_pure built.length).settles

theorem settles_update (name : String) (filter : List Where) (values : Record) :
    (updateProgram name filter values).Settles fun t => t.update name filter values :=
  (checks_require _).bind fun _ => (checks_require _).bind fun _ _ => rfl

theorem settles_delete (name : String) (filter : List Where) :
    (deleteProgram name filter).Settles fun t => t.delete name filter :=
  (checks_require _).bind fun _ _ => rfl

theorem settles_alter (name : String) (d : TableDiff) :
    (alterProgram name d).Settles fun t => t.alter name d >>= fun t' => .ok ((), t') := by
  have hadded := always_forM (ε := StoreError) addColumn d.add
  have hchanged := always_forM (ε := StoreError) changeColumn d.change
  refine Settles.congr ((checks_forM _ d.change).bind fun _ => (checks_forM _ d.add).bind fun _ =>
    (hadded.bind fun _ => hchanged).settles) fun t => ?_
  change _ = (d.change.forM (t.checkChange name) >>= fun _ => d.add.forM (t.checkAddition name) >>= fun _ => .ok _) >>= _
  cases d.change.forM (t.checkChange name) with
  | error e => rfl
  | ok a => cases d.add.forM (t.checkAddition name) <;> rfl

end Table

namespace Store

open Program

/-- Run a program on a table where it stands in the store. -/
def onTable {α : Type} (name : String) (p : Program StoreError Table α) : Program StoreError Store α := fun s =>
  match s.table? name with
  | .error e => .error e s
  | .ok t =>
    match p.run t with
    | .ok a t' => .ok a (s.put name t')
    | .error e t' => .error e (s.put name t')

/-- What settles on a table settles on the store: a table that has not changed is put where it stands. -/
theorem settles_onTable {α : Type} {name : String} {p : Program StoreError Table α}
    {f : Table → Except StoreError (α × Table)} (h : p.Settles f) :
    (onTable name p).Settles fun s => s.table? name >>= fun t => f t >>= fun r => .ok (r.1, s.put name r.2) := by
  intro s
  simp only [EStateM.run, onTable]
  cases ht : s.table? name with
  | error e => rfl
  | ok t =>
    have hp : p.run t = _ := h t
    rw [EStateM.run] at hp
    have hsame : s.put name t = s := by rw [put, Assoc.insert_eq_self (Library.table?_eq_ok_iff.1 ht)]
    cases hf : f t with
    | ok r => simp only [hp, hf, bind, Except.bind]
    | error e => simp only [hp, hf, hsame, bind, Except.bind]

/-- Make a table. -/
def createProgram (d : TableDefinition) : Program StoreError Store Unit := do
  require fun s => if s.hasTable d.name then .error (.tableExists d.name) else .ok ()
  modify fun s => s.put d.name (.ofDefinition d)

/-- Insert a row. -/
def insertProgram (name : String) (values : Record) : Program StoreError Store Value :=
  onTable name (Table.insertProgram name values)

/-- Insert several rows. -/
def insertAllProgram (name : String) (columns : List String) (rows : List (List Value)) : Program StoreError Store Nat :=
  onTable name (Table.insertAllProgram name columns rows)

/-- Set cells of rows. -/
def updateProgram (name : String) (filter : List Where) (values : Record) : Program StoreError Store Nat :=
  onTable name (Table.updateProgram name filter values)

/-- Remove rows. -/
def deleteProgram (name : String) (filter : List Where) : Program StoreError Store Nat :=
  onTable name (Table.deleteProgram name filter)

/-- Change a table. -/
def alterProgram (name : String) (d : TableDiff) : Program StoreError Store Unit :=
  onTable name (Table.alterProgram name d)

/-- The operations in place. -/
def Operation.program : Operation → Program StoreError Store Unit
  | .create d => createProgram d
  | .alter name d => alterProgram name d
  | .drop name => modify fun s => s.drop name
  | .insert name values => discard (insertProgram name values)
  | .insertAll name columns rows => discard (insertAllProgram name columns rows)
  | .update name filter values => discard (updateProgram name filter values)
  | .delete name filter => discard (deleteProgram name filter)

theorem settles_create (d : TableDefinition) :
    (createProgram d).Settles fun s => s.create d >>= fun s' => .ok ((), s') := by
  refine Settles.congr ((checks_require _).bind fun _ => (always_modify _).settles) fun s => ?_
  unfold create
  split <;> rfl

theorem settles_insert (name : String) (values : Record) :
    (insertProgram name values).Settles fun s => s.insert name values :=
  settles_onTable (Table.settles_insert name values)

theorem settles_insertAll (name : String) (columns : List String) (rows : List (List Value)) :
    (insertAllProgram name columns rows).Settles fun s => s.insertAll name columns rows :=
  settles_onTable (Table.settles_insertAll name columns rows)

theorem settles_update (name : String) (filter : List Where) (values : Record) :
    (updateProgram name filter values).Settles fun s => s.update name filter values :=
  settles_onTable (Table.settles_update name filter values)

theorem settles_delete (name : String) (filter : List Where) :
    (deleteProgram name filter).Settles fun s => s.delete name filter :=
  settles_onTable (Table.settles_delete name filter)

theorem settles_alter (name : String) (d : TableDiff) :
    (alterProgram name d).Settles fun s => s.alter name d >>= fun s' => .ok ((), s') := by
  refine (settles_onTable (Table.settles_alter name d)).congr fun s => ?_
  change _ = (s.table? name >>= fun t => t.alter name d >>= fun t' => .ok (s.put name t')) >>= _
  cases s.table? name with
  | error e => rfl
  | ok t =>
    change (t.alter name d >>= _) >>= _ = (t.alter name d >>= _) >>= _
    cases t.alter name d <;> rfl

/-- Every operation settles as the store says. -/
theorem settles_program (op : Operation) : op.program.Settles fun s => s.perform op >>= fun s' => .ok ((), s') := by
  have hdiscard : ∀ {α : Type} {p : Program StoreError Store α} {f : Store → Except StoreError (α × Store)},
      p.Settles f → (discard p).Settles fun s => (f s >>= fun r => .ok r.2) >>= fun s' => .ok ((), s') := by
    intro α p f h
    refine Settles.congr (h.bind fun _ => always_pure ()) fun s => ?_
    cases f s <;> rfl
  cases op with
  | create d => exact settles_create d
  | alter name d => exact settles_alter name d
  | drop name => exact (always_modify _).settles
  | insert name values => exact hdiscard (settles_insert name values)
  | insertAll name columns rows => exact hdiscard (settles_insertAll name columns rows)
  | update name filter values => exact hdiscard (settles_update name filter values)
  | delete name filter => exact hdiscard (settles_delete name filter)

end Store

end DataModel

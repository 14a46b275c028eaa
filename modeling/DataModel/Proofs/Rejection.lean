import DataModel.Proofs.Acceptance
import DataModel.Proofs.Paging

/-!
# Columns that a model does not have

A request may name columns in its filter, at any depth, in its orders and in its list of columns. One that the model
does not have is found when the request is made ready for the store, so a command with such a request fails and changes
nothing. There are two commands that may come to an end before the request is looked at: a change of rows by a row that
brings nothing to write, and a page behind the last row, of which only the filter is looked at.
-/

namespace DataModel

/-- Whether a computation fails in certain ways only. -/
def FailsWith {α ε : Type} (P : ε → Prop) (x : Except ε α) : Prop :=
  ∀ e, x = .error e → P e

namespace FailsWith

variable {α β ε : Type} {P : ε → Prop}

theorem ok (a : α) : FailsWith P (.ok a : Except ε α) :=
  nofun

theorem error {e : ε} (h : P e) : FailsWith P (.error e : Except ε α) := by
  rintro _ ⟨⟩
  exact h

theorem mono {Q : ε → Prop} {x : Except ε α} (h : FailsWith P x) (hPQ : ∀ e, P e → Q e) : FailsWith Q x :=
  fun e he => hPQ e (h e he)

theorem bind {x : Except ε α} {f : α → Except ε β} (hx : FailsWith P x) (hf : ∀ a, x = .ok a → FailsWith P (f a)) :
    FailsWith P (x >>= f) := by
  intro e he
  rcases bind_eq_error_iff.1 he with he | ⟨a, ha, he⟩
  · exact hx e he
  · exact hf a ha e he

theorem forM {f : α → Except ε Unit} {items : List α} (hf : ∀ a ∈ items, FailsWith P (f a)) :
    FailsWith P (items.forM f) := by
  induction items with
  | nil => exact .ok ()
  | cons a items ih =>
    rw [List.forall_mem_cons] at hf
    exact hf.1.bind fun _ _ => ih hf.2

end FailsWith

namespace Model

variable {m : Model} {q : Descriptor}

/-- Whether a result is the failure of a column that the model does not have. -/
def Misses (m : Model) {α : Type} (result : Except ModelError α) : Prop :=
  ∃ column, m.hasColumn column = false ∧ result = .error (.unknownColumn m.name column)

theorem Misses.bind {α β : Type} {x : Except ModelError α} (h : m.Misses x) (f : α → Except ModelError β) :
    m.Misses (x >>= f) := by
  obtain ⟨column, hcolumn, rfl⟩ := h
  exact ⟨column, hcolumn, rfl⟩

/-- Whether a failure is that of a column that the model does not have. -/
def IsMissing (m : Model) (e : ModelError) : Prop :=
  ∃ column, m.hasColumn column = false ∧ e = .unknownColumn m.name column

theorem misses_of_failsWith {α : Type} {result : Except ModelError α} (h : FailsWith m.IsMissing result)
    (hnot : ∀ a, result ≠ .ok a) : m.Misses result := by
  cases result with
  | ok a => exact absurd rfl (hnot a)
  | error e =>
    obtain ⟨column, hcolumn, rfl⟩ := h e rfl
    exact ⟨column, hcolumn, rfl⟩

theorem failsWith_checkColumn (m : Model) (column : String) : FailsWith m.IsMissing (m.checkColumn column) := by
  unfold checkColumn
  split
  next => exact .ok ()
  next hnot => exact .error ⟨column, Bool.eq_false_iff.2 hnot, rfl⟩

mutual

theorem failsWith_checkWhere (m : Model) (w : Where) : FailsWith m.IsMissing (m.checkWhere w) := by
  cases w with
  | leaf method column op value => exact failsWith_checkColumn m column
  | group method wheres => exact failsWith_checkWheres m wheres

theorem failsWith_checkWheres (m : Model) (ws : List Where) : FailsWith m.IsMissing (m.checkWheres ws) := by
  cases ws with
  | nil => exact .ok ()
  | cons w ws =>
    have hbind : m.checkWheres (w :: ws) = (m.checkWhere w >>= fun _ => m.checkWheres ws) := by
      rw [checkWheres]
      cases m.checkWhere w <;> rfl
    rw [hbind]
    exact (failsWith_checkWhere m w).bind fun _ _ => failsWith_checkWheres m ws

end

theorem failsWith_filter (m : Model) (q : Descriptor) : FailsWith m.IsMissing (m.filter q) :=
  (failsWith_checkWheres m q.wheres).bind fun _ _ => .ok _

theorem failsWith_selection (m : Model) (q : Descriptor) (keys : List String) :
    FailsWith m.IsMissing (m.selection q keys) :=
  (FailsWith.forM fun c _ => failsWith_checkColumn m c).bind fun _ _ =>
    (FailsWith.forM fun o _ => failsWith_checkColumn m o.column).bind fun _ _ =>
      (failsWith_filter m q).bind fun _ _ => .ok _

/-- Whether one of some columns is not among those of the model. -/
def Lacks (m : Model) (columns : List String) : Prop :=
  ∃ c ∈ columns, m.hasColumn c = false

theorem Lacks.not_all {columns : List String} (h : m.Lacks columns) : ¬ ∀ c ∈ columns, m.hasColumn c = true := by
  obtain ⟨c, hc, hnot⟩ := h
  exact fun hall => Bool.false_ne_true (hnot.symm.trans (hall c hc))

theorem Lacks.mono {columns more : List String} (h : m.Lacks columns) (hsub : ∀ c ∈ columns, c ∈ more) :
    m.Lacks more := by
  obtain ⟨c, hc, hnot⟩ := h
  exact ⟨c, hsub c hc, hnot⟩

/-- The filter of a request is looked at when it is made ready for the store. -/
theorem misses_filter (h : m.Lacks (Table.columnsOfAll q.wheres)) : m.Misses (m.filter q) := by
  exact misses_of_failsWith (failsWith_filter m q) fun f hf => h.not_all (filter_eq_ok_iff.1 hf).1

/-- The columns that a request asks for and those that it orders by. -/
def shownBy (q : Descriptor) : List String :=
  q.select ++ q.orders.map Order.column

/-- A request is looked at as a whole when it is made ready for the store. -/
theorem misses_selection (h : m.Lacks (shownBy q ++ Table.columnsOfAll q.wheres)) (keys : List String) :
    m.Misses (m.selection q keys) := by
  refine misses_of_failsWith (failsWith_selection m q keys) fun s hs => ?_
  obtain ⟨hselect, horders, f, hf, -⟩ := selection_eq_ok_iff.1 hs
  refine h.not_all ?_
  rw [List.forall_mem_append, shownBy, List.forall_mem_append, List.forall_mem_map]
  exact ⟨⟨hselect, horders⟩, (filter_eq_ok_iff.1 hf).1⟩

/-- Whether a row brings nothing to write: the model keeps no times, and of what the row brings nothing but the primary
key is a column. -/
def BringsNothing (m : Model) (row : Record) : Prop :=
  m.timestamps = false ∧ ∀ c ∈ (row.erase m.primaryKey).keys, m.hasColumn c = false

theorem known_eq_nil_iff {row : Record} : m.known row = [] ↔ ∀ c ∈ row.keys, m.hasColumn c = false := by
  rw [known, List.filterMap_eq_nil_iff, Assoc.keys, List.forall_mem_map]
  refine forall₂_congr fun e _ => ?_
  rw [Option.map_eq_none_iff, column?, List.find?_eq_none, Bool.eq_false_iff, hasColumn, hasColumnIn, ne_eq,
    List.any_eq_true, not_exists]
  exact forall_congr' fun c => not_and.symm

/-- A row that changes others is prepared to nothing when it brings nothing. -/
theorem prepare_eq_nil_iff (sur : Surroundings) {row : Record} :
    m.prepare sur .update (row.erase m.primaryKey) = .ok [] ↔ m.BringsNothing row := by
  rw [BringsNothing, ← known_eq_nil_iff]
  constructor
  · intro h
    obtain ⟨-, hashed, hhashed, hnil⟩ := exists_of_prepare_update h
    unfold stamped at hnil
    split at hnil
    next =>
      -- where times are kept, the time of the change is written
      have hin : updatedAt ∈ Assoc.keys ([] : Record) := hnil ▸ Assoc.mem_keys_insert.2 (Or.inl rfl)
      exact absurd hin List.not_mem_nil
    next htimes =>
      have hkeys := keys_hashed hhashed
      rw [← hnil] at hkeys
      exact ⟨Bool.eq_false_iff.2 htimes, List.map_eq_nil_iff.1 hkeys.symm⟩
  · rintro ⟨htimes, hknown⟩
    have hvalid : m.validated .update [] = .ok [] := rfl
    have hhashed : m.hashed sur m.columns [] = .ok [] := by
      -- hashing goes over the columns of the model, none of which has a cell in an empty row
      generalize m.columns = columns
      induction columns with
      | nil => rfl
      | cons c columns ih =>
        unfold hashed
        split <;> exact ih
    rw [prepare, hknown, hvalid]
    refine bind_eq_ok_iff.2 ⟨[], rfl, bind_eq_ok_iff.2 ⟨[], hhashed, ?_⟩⟩
    rw [stamped, if_neg (by simp [htimes])]

end Model

namespace Library

variable {l : Library} {m : Model} {q : Descriptor}

theorem misses_run (h : m.Lacks (Model.shownBy q ++ Table.columnsOfAll q.wheres)) : m.Misses (l.run m q) := by
  rw [run, depth, resolve_succ]
  exact ((Model.misses_selection h _).bind _).bind _

theorem misses_count (h : m.Lacks (Table.columnsOfAll q.wheres)) : m.Misses (l.count m q) :=
  (Model.misses_filter h).bind _

end Library

/-- Whether a page starts behind the last of so many rows. -/
def Page.Behind (total number size : UInt64) : Prop :=
  total.toNat ≤ (max number.toNat 1 - 1) * (sizeFor size).toNat

namespace Library

variable {l : Library} {m : Model} {q : Descriptor}

/-- The columns of a page are not looked at when it starts behind the last row. -/
theorem paginate_of_lacks (h : m.Lacks (Model.shownBy q)) {n : Nat} (hcount : l.count m q = .ok n)
    (number size : UInt64) :
    Page.Behind (UInt64.ofNat n) number size ∧ (∃ p, l.paginate m q number size = .ok p ∧ p.data = []) ∨
      ¬ Page.Behind (UInt64.ofNat n) number size ∧ m.Misses (l.paginate m q number size) := by
  have hnumber : 1 ≤ (max number 1).toNat := by
    rw [toNat_max_one]
    exact Nat.le_max_right _ _
  have hpage : l.paginate m q number size =
      (l.pageRows m q (UInt64.ofNat n) (max number 1) (Page.sizeFor size) >>= fun rows =>
        .ok (.of (UInt64.ofNat n) (max number 1) (Page.sizeFor size) rows)) := by
    rw [paginate, hcount]
    rfl
  rw [hpage, Page.Behind, ← toNat_max_one]
  -- either nothing is read for the page, or the whole request is made ready with its window
  rcases l.pageRows_cases m q (UInt64.ofNat n) hnumber (Page.sizeFor size) with
    ⟨hbehind, hnone⟩ | ⟨offset, hvalue, hinside, hread⟩
  · rw [hnone]
    exact Or.inl ⟨hbehind, _, rfl, rfl⟩
  · refine Or.inr ⟨by omega, ?_⟩
    rw [hread]
    refine (misses_run ?_).bind _
    exact h.mono fun c hc => List.mem_append_left _ hc

end Library

/-- The failure of a result. -/
def failureOf {α : Type} : Except ModelError α → Option ModelError
  | .ok _ => none
  | .error e => some e

namespace Handle

/-- The failure of a command, if it fails. -/
def failure? (h : Handle) : Command → Option ModelError
  | .plain (.get q) => failureOf (h.get q)
  | .plain (.find id q) => failureOf (h.find id q)
  | .plain (.count q) => failureOf (h.count q)
  | .plain (.paginate q page size) => failureOf (h.paginate q page size)
  | .plain (.create s row) => failureOf (h.create s row)
  | .plain (.save s row) => failureOf (h.save s row)
  | .plain (.update s id row) => failureOf (h.update s id row)
  | .plain (.updateWhere s q row) => failureOf (h.updateWhere s q row)
  | .plain (.eachSave s rows defaults) => failureOf (h.eachSave s rows defaults).1
  | .plain (.insert columns rows) => failureOf (h.insert columns rows)
  | .plain (.delete now id) => failureOf (h.delete now id)
  | .plain (.deleteWhere now q) => failureOf (h.deleteWhere now q)
  | .plain .migrate => failureOf (h.migrate false)
  | .destroy id => failureOf (h.destroy id)
  | .destroyWhere q => failureOf (h.destroyWhere q)
  | .remake => failureOf (h.migrate true)

namespace Command

/-- The request that a command was given. -/
def request? : Command → Option Descriptor
  | .plain (.get q) | .plain (.find _ q) | .plain (.count q) | .plain (.paginate q _ _)
  | .plain (.updateWhere _ q _) | .plain (.deleteWhere _ q) | .destroyWhere q => some q
  | _ => none

/-- Whether a command gives back rows. -/
def showsRows : Command → Bool
  | .plain (.get _) | .plain (.find _ _) | .plain (.paginate _ _ _) => true
  | _ => false

end Command

variable {h : Handle} {q : Descriptor}

theorem misses_get (hq : h.model.Lacks (Model.shownBy q ++ Table.columnsOfAll q.wheres)) : h.model.Misses (h.get q) :=
  Library.misses_run hq

theorem misses_find (hq : h.model.Lacks (Model.shownBy q ++ Table.columnsOfAll q.wheres)) (id : Value) :
    h.model.Misses (h.find id q) := by
  refine (misses_get (hq.mono fun c hc => ?_)).bind _
  rw [List.mem_append] at hc ⊢
  exact hc.imp_right fun hc => Model.mem_columnsOfAll_narrowed.2 (Or.inr hc)

theorem misses_destroyWhere (hq : h.model.Lacks (Table.columnsOfAll q.wheres)) : h.model.Misses (h.destroyWhere q) :=
  (Model.misses_filter (q := q.includingTrashed) hq).bind _

theorem misses_deleteWhere (hq : h.model.Lacks (Table.columnsOfAll q.wheres)) (now : String) :
    h.model.Misses (h.deleteWhere now q) := by
  unfold deleteWhere
  split
  · exact (Model.misses_filter hq).bind _
  · exact misses_destroyWhere hq

/-- Whether a command fails for a column that the model does not have. -/
def Refuses (h : Handle) (c : Command) : Prop :=
  ∃ column, h.model.hasColumn column = false ∧ h.failure? c = some (.unknownColumn h.model.name column)

theorem failureOf_of_misses {m : Model} {α : Type} {result : Except ModelError α} (hr : m.Misses result) :
    ∃ column, m.hasColumn column = false ∧ failureOf result = some (.unknownColumn m.name column) := by
  obtain ⟨column, hcolumn, rfl⟩ := hr
  exact ⟨column, hcolumn, rfl⟩

theorem Refuses.failure_ne_none {c : Command} (hr : h.Refuses c) : h.failure? c ≠ none := by
  obtain ⟨column, -, hf⟩ := hr
  simp [hf]

/-- With a filter that names a column which the model does not have, every command but a change of rows fails. -/
theorem refuses_of_filter {c : Command} (hc : c.request? = some q)
    (hq : h.model.Lacks (Table.columnsOfAll q.wheres)) :
    (∃ sur row, c = .plain (.updateWhere sur q row)) ∨
      h.Refuses c ∧ ∀ sur row, c ≠ .plain (.updateWhere sur q row) := by
  have hall : h.model.Lacks (Model.shownBy q ++ Table.columnsOfAll q.wheres) :=
    hq.mono fun c hc => List.mem_append_right _ hc
  cases c with
  | plain op =>
    cases op with
    | get q' => cases hc; exact Or.inr ⟨failureOf_of_misses (misses_get hall), nofun⟩
    | find id q' => cases hc; exact Or.inr ⟨failureOf_of_misses (misses_find hall id), nofun⟩
    | count q' => cases hc; exact Or.inr ⟨failureOf_of_misses (Library.misses_count hq), nofun⟩
    | paginate q' number size =>
      cases hc
      exact Or.inr ⟨failureOf_of_misses ((Library.misses_count hq).bind _), nofun⟩
    | updateWhere sur q' row => cases hc; exact Or.inl ⟨sur, row, rfl⟩
    | deleteWhere now q' => cases hc; exact Or.inr ⟨failureOf_of_misses (misses_deleteWhere hq now), nofun⟩
    | _ => cases hc
  | destroyWhere q' => cases hc; exact Or.inr ⟨failureOf_of_misses (misses_destroyWhere hq), nofun⟩
  | destroy id => cases hc
  | remake => cases hc

/-- When a column is asked for or ordered by which the model does not have, every command that shows rows fails, but
for one that shows a page. -/
theorem refuses_of_shown {c : Command} (hc : c.request? = some q) (hshows : c.showsRows = true)
    (hq : h.model.Lacks (Model.shownBy q)) :
    (∃ number size, c = .plain (.paginate q number size)) ∨
      h.Refuses c ∧ ∀ number size, c ≠ .plain (.paginate q number size) := by
  have hall : h.model.Lacks (Model.shownBy q ++ Table.columnsOfAll q.wheres) :=
    hq.mono fun c hc => List.mem_append_left _ hc
  cases c with
  | plain op =>
    cases op with
    | get q' => cases hc; exact Or.inr ⟨failureOf_of_misses (misses_get hall), nofun⟩
    | find id q' => cases hc; exact Or.inr ⟨failureOf_of_misses (misses_find hall id), nofun⟩
    | paginate q' number size => cases hc; exact Or.inl ⟨number, size, rfl⟩
    | _ => cases hshows
  | _ => cases hshows

/-- The filter of a change is looked at unless there is nothing to write, or the row cannot be prepared. -/
theorem failure_updateWhere (hq : h.model.Lacks (Table.columnsOfAll q.wheres)) (sur : Surroundings) (row : Record) :
    (h.failure? (.plain (.updateWhere sur q row)) = none ↔ h.model.BringsNothing row) ∧
      ∀ e, h.failure? (.plain (.updateWhere sur q row)) = some e → h.Refuses (.plain (.updateWhere sur q row)) ∨
        h.model.prepare sur .update (row.erase h.model.primaryKey) = .error e := by
  change (failureOf (h.updateWhere sur q row) = none ↔ _) ∧ ∀ e, failureOf (h.updateWhere sur q row) = some e →
    (∃ column, _ ∧ failureOf (h.updateWhere sur q row) = _) ∨ _
  rw [← Model.prepare_eq_nil_iff sur]
  unfold updateWhere
  cases h.model.prepare sur .update (row.erase h.model.primaryKey) with
  | error e => exact ⟨iff_of_false nofun nofun, fun e' he => Or.inr (congrArg Except.error (Option.some.inj he))⟩
  | ok values =>
    cases values with
    | nil => exact ⟨iff_of_true rfl rfl, nofun⟩
    | cons e values =>
      -- with something to write, the filter is made ready before the store is asked
      obtain ⟨column, hcolumn, hf⟩ := failureOf_of_misses ((Model.misses_filter hq).bind fun filter =>
        Library.ofStore (h.library.store.update h.model.tableName filter (e :: values)))
      exact ⟨iff_of_false (fun hnone => by cases hf.symm.trans hnone) (by simp), fun _ _ => Or.inl ⟨column, hcolumn, hf⟩⟩

theorem obey_updateWhere_of_nothing {sur : Surroundings} {row : Record} (hrow : h.model.BringsNothing row) :
    h.obey (.plain (.updateWhere sur q row)) = h := by
  have hu : h.updateWhere sur q row = .ok (0, h.library.store) := by
    rw [updateWhere, (Model.prepare_eq_nil_iff sur).2 hrow]
    rfl
  rw [obey, storeUnder, storeAfter, hu]
  rfl

/-- The columns of a page are looked at unless it starts behind the last row, or the rows cannot be counted. -/
theorem failure_paginate (hq : h.model.Lacks (Model.shownBy q)) (number size : UInt64) :
    (h.failure? (.plain (.paginate q number size)) = none ↔
      ∃ n, h.count q = .ok n ∧ Page.Behind (UInt64.ofNat n) number size) ∧
      ∀ e, h.failure? (.plain (.paginate q number size)) = some e → h.Refuses (.plain (.paginate q number size)) ∨
        h.count q = .error e := by
  change (failureOf (h.library.paginate h.model q number size) = none ↔ ∃ n, h.library.count h.model q = .ok n ∧ _) ∧
    ∀ e, failureOf (h.library.paginate h.model q number size) = some e →
      (∃ column, _ ∧ failureOf (h.library.paginate h.model q number size) = _) ∨ h.library.count h.model q = .error e
  cases hcount : h.library.count h.model q with
  | error e =>
    have hpage : h.library.paginate h.model q number size = .error e := bind_eq_error_iff.2 (Or.inl hcount)
    rw [hpage]
    exact ⟨iff_of_false nofun (by rintro ⟨n, hn, -⟩; cases hn),
      fun e' he => Or.inr (congrArg Except.error (Option.some.inj he))⟩
  | ok n =>
    rcases Library.paginate_of_lacks hq hcount number size with ⟨hbehind, p, hpage, -⟩ | ⟨hinside, hmiss⟩
    · rw [hpage]
      exact ⟨iff_of_true rfl ⟨n, rfl, hbehind⟩, nofun⟩
    · obtain ⟨column, hcolumn, hf⟩ := failureOf_of_misses hmiss
      refine ⟨iff_of_false (fun hnone => by cases hf.symm.trans hnone) ?_, fun _ _ => Or.inl ⟨column, hcolumn, hf⟩⟩
      rintro ⟨n', hn, hbehind⟩
      rw [Except.ok.inj hn] at hinside
      exact hinside hbehind

theorem settled_of_failure {α : Type} {result : Except ModelError (α × Store)} {e : ModelError}
    (hf : failureOf result = some e) : h.settled result = h.library.store := by
  cases result with
  | ok a => cases hf
  | error e => rfl

/-- A command with a request changes nothing when it fails. -/
theorem obey_of_failure {c : Command} (hc : c.request? = some q) {e : ModelError} (hf : h.failure? c = some e) :
    h.obey c = h := by
  have hstore : h.storeUnder c = h.library.store := by
    cases c with
    | plain op =>
      cases op with
      | get q' => rfl
      | find id q' => rfl
      | count q' => rfl
      | paginate q' number size => rfl
      | updateWhere sur q' row => exact settled_of_failure hf
      | deleteWhere now q' => exact settled_of_failure hf
      | _ => cases hc
    | destroyWhere q' => exact settled_of_failure hf
    | destroy id => cases hc
    | remake => cases hc
  rw [obey, hstore]

theorem Refuses.obey {c : Command} (hr : h.Refuses c) (hc : c.request? = some q) : h.obey c = h := by
  obtain ⟨column, -, hf⟩ := hr
  exact obey_of_failure hc hf

/-- A command with a request that names a column which the model does not have fails and changes nothing, for every
model and every store. Of a column in the filter, at any depth, there is one exception: a change by a row that brings
nothing to write, which succeeds and changes nothing either. Of a column that is asked for or ordered by there is one as
well: a page behind the last row, which is found to be empty. The failure is that of the column, unless it comes
before: from preparing the row to write, or from counting the rows of all pages. -/
theorem unknown_columns_refused (h : Handle) {c : Command} {q : Descriptor} (hc : c.request? = some q) :
    (h.model.Lacks (Table.columnsOfAll q.wheres) →
      h.obey c = h ∧
        (h.failure? c = none ↔ ∃ sur row, c = .plain (.updateWhere sur q row) ∧ h.model.BringsNothing row) ∧
        ∀ e, h.failure? c = some e → h.Refuses c ∨ ∃ sur row, c = .plain (.updateWhere sur q row) ∧
          h.model.prepare sur .update (row.erase h.model.primaryKey) = .error e) ∧
      (c.showsRows = true → h.model.Lacks (Model.shownBy q) →
        h.obey c = h ∧
          (h.failure? c = none ↔ ∃ number size n, c = .plain (.paginate q number size) ∧ h.count q = .ok n ∧
            Page.Behind (UInt64.ofNat n) number size) ∧
          ∀ e, h.failure? c = some e → h.Refuses c ∨ ∃ number size, c = .plain (.paginate q number size) ∧
            h.count q = .error e) := by
  refine ⟨fun hq => ?_, fun hshows hq => ?_⟩
  · rcases refuses_of_filter hc hq with ⟨sur, row, rfl⟩ | ⟨hrefuses, hother⟩
    · obtain ⟨hnone, hsome⟩ := failure_updateWhere hq sur row
      refine ⟨?_, ⟨fun hf => ⟨sur, row, rfl, hnone.1 hf⟩, ?_⟩, fun e hf => ?_⟩
      · cases hf : h.failure? (.plain (.updateWhere sur q row)) with
        | none => exact obey_updateWhere_of_nothing (hnone.1 hf)
        | some e => exact obey_of_failure hc hf
      · rintro ⟨sur', row', heq, hnothing⟩
        cases heq
        exact hnone.2 hnothing
      · exact (hsome e hf).imp_right fun hprepare => ⟨sur, row, rfl, hprepare⟩
    · refine ⟨hrefuses.obey hc, iff_of_false hrefuses.failure_ne_none ?_, fun _ _ => Or.inl hrefuses⟩
      rintro ⟨sur, row, heq, -⟩
      exact hother sur row heq
  · rcases refuses_of_shown hc hshows hq with ⟨number, size, rfl⟩ | ⟨hrefuses, hother⟩
    · obtain ⟨hnone, hsome⟩ := failure_paginate hq number size
      refine ⟨rfl, ⟨fun hf => ?_, ?_⟩, fun e hf => (hsome e hf).imp_right fun hcount => ⟨number, size, rfl, hcount⟩⟩
      · obtain ⟨n, hcount, hbehind⟩ := hnone.1 hf
        exact ⟨number, size, n, rfl, hcount, hbehind⟩
      · rintro ⟨number', size', n, heq, hcount, hbehind⟩
        cases heq
        exact hnone.2 ⟨n, hcount, hbehind⟩
    · refine ⟨hrefuses.obey hc, iff_of_false hrefuses.failure_ne_none ?_, fun _ _ => Or.inl hrefuses⟩
      rintro ⟨number, size, n, heq, -⟩
      exact hother number size heq

end Handle

namespace Sample

/-- The orders of a new store. -/
def orders : Handle :=
  ⟨⟨⟨[]⟩, newStore order⟩, order⟩

/-- The request for urgent orders. Orders have no such column. -/
def urgent : Descriptor :=
  { Descriptor.empty with wheres := [.compare "status" .eq (.text "open"), .grouped [.compare "urgent" .eq (.int 1)]] }

/-- The request for how urgent orders are. -/
def urgency : Descriptor :=
  { Descriptor.empty with select := ["urgent"] }

theorem lacks_urgent : order.Lacks (Table.columnsOfAll urgent.wheres) :=
  ⟨"urgent", by decide, rfl⟩

/-- Urgent orders are not counted, and no note is written to them; and nothing says how urgent orders are. -/
theorem urgent_orders_refused :
    (orders.obey (.plain (.count urgent)) = orders ∧ orders.failure? (.plain (.count urgent)) ≠ none) ∧
      orders.failure? (.plain (.updateWhere surroundings urgent [("note", .text "soon")])) ≠ none ∧
      orders.failure? (.plain (.get urgency)) ≠ none := by
  have hcount := (Handle.unknown_columns_refused orders (c := .plain (.count urgent)) rfl).1 lacks_urgent
  have hupdate := (Handle.unknown_columns_refused orders
    (c := .plain (.updateWhere surroundings urgent [("note", .text "soon")])) rfl).1 lacks_urgent
  have hget := (Handle.unknown_columns_refused orders (c := .plain (.get urgency)) rfl).2 rfl
    ⟨"urgent", by decide, rfl⟩
  refine ⟨⟨hcount.1, fun hnone => ?_⟩, fun hnone => ?_, fun hnone => ?_⟩
  · obtain ⟨_, _, heq, -⟩ := hcount.2.1.1 hnone
    cases heq
  · obtain ⟨_, _, heq, -, hnothing⟩ := hupdate.2.1.1 hnone
    cases heq
    have hnote := hnothing "note" (by decide)
    cases hnote
  · obtain ⟨_, _, _, heq, -⟩ := hget.2.1.1 hnone
    cases heq

/-- Urgent orders may be changed by a row that brings nothing to write, and how urgent orders are may be asked for page
by page when there are none. -/
theorem urgent_orders_overlooked :
    Model.resolve "order" "" (declaredOrder "open") = .ok order ∧ order.hasColumn "urgent" = false ∧
      "urgent" ∈ Table.columnsOfAll urgent.wheres ∧ "urgent" ∈ urgency.select ∧
      orders.updateWhere surroundings urgent [] = .ok (0, orders.library.store) ∧
      orders.paginate urgency 1 10 = .ok (Page.of 0 1 10 []) :=
  ⟨rfl, rfl, by decide, by decide, rfl, rfl⟩

end Sample

end DataModel

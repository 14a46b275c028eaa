import DataModel.Proofs.Token

/-!
# Search conditions

The grammar of the expression after `WHERE`, level by level as SQL has it: predicates, joined by AND and OR, of
which AND binds tighter, with parentheses around what belongs together. Parentheses after other tokens of a
predicate hold the list of an IN.

The grammar relates tokens and expressions. That no tokens have two readings is shown by a reader that takes one
token after the other and keeps the open parentheses on a stack: what the grammar reads, the reader reads in the
same way.
-/

namespace DataModel.Sql

/-- An expression with predicates as its leaves. -/
inductive Expression where
  | leaf (predicate : List Token)
  | and (left right : Expression)
  | or (left right : Expression)
deriving DecidableEq, Repr

namespace Expression

/-- The predicates from left to right. -/
def leaves : Expression → List (List Token)
  | leaf ts => [ts]
  | and e f | or e f => e.leaves ++ f.leaves

/-- The value when the predicates have the truth values of a sequence, from a place in it on. -/
def valueFrom (truths : Nat → Bool) (first : Nat) : Expression → Bool
  | leaf _ => truths first
  | and e f => e.valueFrom truths first && f.valueFrom truths (first + e.leaves.length)
  | or e f => e.valueFrom truths first || f.valueFrom truths (first + e.leaves.length)

end Expression

/-- What a token is to an expression. -/
inductive Role where
  /-- A part of a predicate. -/
  | plain
  | opening
  | closing
  | and
  | or
  /-- No part of an expression. -/
  | stray
deriving DecidableEq, Repr

/-- The role of a token. A name is never a keyword. -/
def Token.role : Token → Role
  | opening => .opening
  | closing => .closing
  | broken => .stray
  | word s => if s = "AND" then .and else if s = "OR" then .or else .plain
  | name _ | param _ | comma => .plain

/-- The tokens of a predicate: plain ones, and at the end a list between parentheses if there is one. -/
inductive IsPredicate : List Token → Prop where
  | plain {ts : List Token} (hne : ts ≠ []) (hts : ∀ t ∈ ts, t.role = .plain) : IsPredicate ts
  | listed {ts us : List Token} (hne : ts ≠ []) (hts : ∀ t ∈ ts, t.role = .plain)
      (hus : ∀ t ∈ us, t.role = .plain) : IsPredicate (ts ++ .opening :: (us ++ [.closing]))

mutual

/-- A predicate or a condition between parentheses. -/
inductive Primary : List Token → Expression → Prop where
  | predicate {ts : List Token} (h : IsPredicate ts) : Primary ts (.leaf ts)
  | group {ts : List Token} {e : Expression} (h : SearchCondition ts e) :
      Primary (.opening :: (ts ++ [.closing])) e

/-- Primaries with AND between them. -/
inductive BooleanTerm : List Token → Expression → Prop where
  | primary {ts : List Token} {e : Expression} (h : Primary ts e) : BooleanTerm ts e
  | and {ts us : List Token} {e f : Expression} (he : BooleanTerm ts e) (hf : Primary us f) :
      BooleanTerm (ts ++ .word "AND" :: us) (.and e f)

/-- Terms with OR between them. -/
inductive SearchCondition : List Token → Expression → Prop where
  | term {ts : List Token} {e : Expression} (h : BooleanTerm ts e) : SearchCondition ts e
  | or {ts us : List Token} {e f : Expression} (he : SearchCondition ts e) (hf : BooleanTerm us f) :
      SearchCondition (ts ++ .word "OR" :: us) (.or e f)

end

/-- A text is read as an expression. -/
def Reads (text : String) (e : Expression) : Prop :=
  SearchCondition (tokens text) e

namespace Reader

/-- What has been read since the last AND, OR or opening parenthesis. -/
inductive Item where
  | nothing
  /-- The tokens of a predicate so far. -/
  | predicate (read : List Token)
  /-- The tokens of a predicate before its list, and those in the list so far. -/
  | list (read items : List Token)
  /-- A primary to which nothing can be added. -/
  | complete (e : Expression)

/-- What is complete between some parentheses: the terms before the last OR, and the primaries after it. -/
structure Level where
  terms : Option Expression
  primaries : Option Expression

/-- What has been read: the levels outside the innermost parentheses, the level inside, and what follows there. -/
structure State where
  outer : List Level
  level : Level
  item : Item

/-- The primary that has been read. -/
def Item.primary? : Item → Option Expression
  | predicate read => some (.leaf read)
  | complete e => some e
  | nothing | list _ _ => none

/-- Add a plain token. -/
def Item.add? (t : Token) : Item → Option Item
  | nothing => some (predicate [t])
  | predicate read => some (predicate (read ++ [t]))
  | list read items => some (list read (items ++ [t]))
  | complete _ => none

namespace Level

/-- A level without anything. -/
def empty : Level :=
  ⟨none, none⟩

/-- The term that ends with a primary. -/
def term (l : Level) (e : Expression) : Expression :=
  match l.primaries with
  | none => e
  | some before => .and before e

/-- The condition that ends with a primary. -/
def condition (l : Level) (e : Expression) : Expression :=
  match l.terms with
  | none => l.term e
  | some before => .or before (l.term e)

end Level

/-- Read an opening parenthesis, of a list or of a condition. -/
def opened? (r : State) : Option State :=
  match r.item with
  | .nothing => some ⟨r.level :: r.outer, .empty, .nothing⟩
  | .predicate read => some { r with item := .list read [] }
  | .list _ _ | .complete _ => none

/-- Read a closing parenthesis. -/
def closed? (r : State) : Option State :=
  match r.item with
  | .list read items => some { r with item := .complete (.leaf (read ++ .opening :: (items ++ [.closing]))) }
  | item =>
    match item.primary?, r.outer with
    | some e, l :: outer => some ⟨outer, l, .complete (r.level.condition e)⟩
    | _, _ => none

/-- Read one token; `none` where no expression goes on with it. -/
def step (r : State) (t : Token) : Option State :=
  match t.role with
  | .plain => (r.item.add? t).map fun item => { r with item }
  | .opening => opened? r
  | .closing => closed? r
  | .and => r.item.primary?.map fun e => ⟨r.outer, ⟨r.level.terms, some (r.level.term e)⟩, .nothing⟩
  | .or => r.item.primary?.map fun e => ⟨r.outer, ⟨some (r.level.condition e), none⟩, .nothing⟩
  | .stray => none

/-- Read tokens one after the other. -/
def run (r : State) (ts : List Token) : Option State :=
  ts.foldlM step r

/-- The expression that has been read when no parenthesis is open. -/
def result? (r : State) : Option Expression :=
  match r.outer with
  | [] => r.item.primary?.map r.level.condition
  | _ :: _ => none

/-- Read an expression. -/
def read? (ts : List Token) : Option Expression :=
  (run ⟨[], .empty, .nothing⟩ ts).bind result?

variable {r r' : State} {ts us : List Token}

theorem run_append (h : run r ts = some r') : run r (ts ++ us) = run r' us := by
  rw [run, List.foldlM_append, show List.foldlM step r ts = some r' from h]
  rfl

theorem run_cons {t : Token} (h : step r t = some r') : run r (t :: us) = run r' us := by
  rw [run, List.foldlM_cons, h]
  rfl

theorem run_predicate (outer : List Level) (level : Level) (read : List Token)
    (h : ∀ t ∈ ts, t.role = .plain) :
    run ⟨outer, level, .predicate read⟩ ts = some ⟨outer, level, .predicate (read ++ ts)⟩ := by
  induction ts generalizing read with
  | nil => rw [List.append_nil]; rfl
  | cons t ts ih =>
    rw [List.forall_mem_cons] at h
    have hstep : step ⟨outer, level, .predicate read⟩ t = some ⟨outer, level, .predicate (read ++ [t])⟩ := by
      rw [step, h.1]
      rfl
    rw [run_cons hstep, ih _ h.2, List.append_assoc, List.singleton_append]

theorem run_list (outer : List Level) (level : Level) (read items : List Token)
    (h : ∀ t ∈ ts, t.role = .plain) :
    run ⟨outer, level, .list read items⟩ ts = some ⟨outer, level, .list read (items ++ ts)⟩ := by
  induction ts generalizing items with
  | nil => rw [List.append_nil]; rfl
  | cons t ts ih =>
    rw [List.forall_mem_cons] at h
    have hstep : step ⟨outer, level, .list read items⟩ t = some ⟨outer, level, .list read (items ++ [t])⟩ := by
      rw [step, h.1]
      rfl
    rw [run_cons hstep, ih _ h.2, List.append_assoc, List.singleton_append]

/-- The first tokens of a predicate. -/
theorem run_plain (outer : List Level) (level : Level) (hne : ts ≠ []) (h : ∀ t ∈ ts, t.role = .plain) :
    run ⟨outer, level, .nothing⟩ ts = some ⟨outer, level, .predicate ts⟩ := by
  cases ts with
  | nil => exact absurd rfl hne
  | cons t ts =>
    rw [List.forall_mem_cons] at h
    have hstep : step ⟨outer, level, .nothing⟩ t = some ⟨outer, level, .predicate [t]⟩ := by
      rw [step, h.1]
      rfl
    rw [run_cons hstep, run_predicate outer level [t] h.2, List.singleton_append]

theorem run_isPredicate (outer : List Level) (level : Level) (h : IsPredicate ts) :
    ∃ item, run ⟨outer, level, .nothing⟩ ts = some ⟨outer, level, item⟩ ∧ item.primary? = some (.leaf ts) := by
  cases h with
  | plain hne hts => exact ⟨_, run_plain outer level hne hts, rfl⟩
  | @listed ts us hne hts hus =>
    refine ⟨.complete (.leaf (ts ++ .opening :: (us ++ [.closing]))), ?_, rfl⟩
    have hopening : step ⟨outer, level, .predicate ts⟩ .opening = some ⟨outer, level, .list ts []⟩ := rfl
    rw [run_append (run_plain outer level hne hts), run_cons hopening,
      run_append (run_list outer level ts [] hus)]
    rfl

mutual

/-- A primary is read without a change to what stands before it. -/
theorem run_primary : ∀ {ts : List Token} {e : Expression}, Primary ts e → ∀ (outer : List Level) (level : Level),
    ∃ item, run ⟨outer, level, .nothing⟩ ts = some ⟨outer, level, item⟩ ∧ item.primary? = some e
  | _, _, .predicate h, outer, level => run_isPredicate outer level h
  | _, _, .group h, outer, level => by
    -- the condition fills a level of its own, and the level outside waits on the stack
    obtain ⟨inner, item, f, hrun, hitem, hvalue⟩ := run_searchCondition h (level :: outer)
    have hopening : step ⟨outer, level, .nothing⟩ .opening = some ⟨level :: outer, .empty, .nothing⟩ := rfl
    have hclosing : step ⟨level :: outer, inner, item⟩ .closing =
        some ⟨outer, level, .complete (inner.condition f)⟩ := by
      cases item with
      | nothing => simp [Item.primary?] at hitem
      | list read items => simp [Item.primary?] at hitem
      | predicate read => cases hitem; rfl
      | complete g => cases hitem; rfl
    refine ⟨.complete (inner.condition f), ?_, by rw [← hvalue]; rfl⟩
    rw [run_cons hopening, run_append hrun, run_cons hclosing]
    rfl

/-- A term is read without a change to the terms before it. -/
theorem run_booleanTerm : ∀ {ts : List Token} {e : Expression}, BooleanTerm ts e →
    ∀ (outer : List Level) (terms : Option Expression),
    ∃ level item f, run ⟨outer, ⟨terms, none⟩, .nothing⟩ ts = some ⟨outer, level, item⟩ ∧
      level.terms = terms ∧ item.primary? = some f ∧ level.term f = e
  | _, e, .primary h, outer, terms => by
    obtain ⟨item, hrun, hitem⟩ := run_primary h outer ⟨terms, none⟩
    exact ⟨_, item, e, hrun, rfl, hitem, rfl⟩
  | _, _, .and (e := e) (f := f) he hf, outer, terms => by
    obtain ⟨level, item, g, hrun, hterms, hitem, hvalue⟩ := run_booleanTerm he outer terms
    obtain ⟨item', hrun', hitem'⟩ := run_primary hf outer ⟨terms, some e⟩
    -- AND adds the primary before it to its term, and leaves the terms before that alone
    have hand : step ⟨outer, level, item⟩ (.word "AND") = some ⟨outer, ⟨terms, some e⟩, .nothing⟩ := by
      rw [← hterms, ← hvalue]
      simp [step, Token.role, hitem]
    refine ⟨⟨terms, some e⟩, item', f, ?_, rfl, hitem', rfl⟩
    rw [run_append hrun, run_cons hand, hrun']

/-- A condition is read from the start of a level. -/
theorem run_searchCondition : ∀ {ts : List Token} {e : Expression}, SearchCondition ts e →
    ∀ outer : List Level,
    ∃ level item f, run ⟨outer, .empty, .nothing⟩ ts = some ⟨outer, level, item⟩ ∧
      item.primary? = some f ∧ level.condition f = e
  | _, _, .term h, outer => by
    obtain ⟨level, item, f, hrun, hterms, hitem, hvalue⟩ := run_booleanTerm h outer none
    exact ⟨level, item, f, hrun, hitem, by rw [Level.condition, hterms, hvalue]⟩
  | _, _, .or (e := e) he hf, outer => by
    obtain ⟨level, item, g, hrun, hitem, hvalue⟩ := run_searchCondition he outer
    obtain ⟨level', item', g', hrun', hterms', hitem', hvalue'⟩ := run_booleanTerm hf outer (some e)
    -- OR ends the term before it, whatever AND has joined in it
    have hor : step ⟨outer, level, item⟩ (.word "OR") = some ⟨outer, ⟨some e, none⟩, .nothing⟩ := by
      rw [← hvalue]
      simp [step, Token.role, hitem]
    refine ⟨level', item', g', ?_, hitem', by rw [Level.condition, hterms', hvalue']⟩
    rw [run_append hrun, run_cons hor, hrun']

end

/-- The reader reads what the grammar reads. -/
theorem read?_eq {e : Expression} (h : SearchCondition ts e) : read? ts = some e := by
  obtain ⟨level, item, f, hrun, hitem, hvalue⟩ := run_searchCondition h []
  rw [read?, hrun, ← hvalue, Option.bind_some, result?, hitem]
  rfl

example : read? (tokens "\"p\" = $1 OR (\"q\" = $2) AND \"r\" = $3") =
    some (.or (.leaf [.name "p", .word "=", .param 1])
      (.and (.leaf [.name "q", .word "=", .param 2]) (.leaf [.name "r", .word "=", .param 3]))) := by
  rfl

end Reader

/-- A text is read as one expression at most. -/
theorem Reads.unique {text : String} {e f : Expression} (he : Reads text e) (hf : Reads text f) : e = f :=
  Option.some.inj ((Reader.read?_eq he).symm.trans (Reader.read?_eq hf))

end DataModel.Sql

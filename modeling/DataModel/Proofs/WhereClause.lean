import DataModel.Proofs.Expression
import DataModel.Query.Filter

/-!
# The text of a filter

A filter is decided on a row by joining its conditions from left to right, and written as text that SQL reads
with AND before OR. Both are the same expression: what is read back from the text has the comparisons of the
filter as its leaves, in their order, and the value of the filter for all values of its leaves. `Sql.Agrees`
is what the two keep up with step by step.
-/

namespace DataModel

/-- A comparison of a filter. -/
structure Comparison where
  column : String
  op : Operator
  value : Value

namespace Comparison

/-- Whether a comparison holds of a row. -/
def holds (row : Record) (c : Comparison) : Bool :=
  c.op.holds (row.cell c.column) c.value

/-- A comparison in SQL. -/
def statement (t : TableSchema) (c : Comparison) : Sql.Statement :=
  Sql.comparison t c.column c.op c.value

/-- What comparisons say about a row. -/
def truths (row : Record) (cs : List Comparison) (i : Nat) : Bool :=
  (cs[i]?).any (holds row)

end Comparison

namespace Where

mutual

/-- The comparisons of a node from left to right. -/
def comparisons : Where → List Comparison
  | leaf _ column op value => [⟨column, op, value⟩]
  | group _ wheres => comparisonsOf wheres

/-- The comparisons of a list of nodes from left to right. -/
def comparisonsOf : List Where → List Comparison
  | [] => []
  | w :: ws => comparisons w ++ comparisonsOf ws

end

mutual

/-- The value of a node whose comparisons have the truth values of a sequence, from a place in it on. -/
def value? (truths : Nat → Bool) (first : Nat) : Where → Option Bool
  | leaf _ _ _ _ => some (truths first)
  | group _ wheres => values? truths first none wheres

/-- The value of a list of nodes, joined from left to right, after the value so far. -/
def values? (truths : Nat → Bool) (first : Nat) (soFar : Option Bool) : List Where → Option Bool
  | [] => soFar
  | w :: ws =>
    match value? truths first w with
    | some b => values? truths (first + w.comparisons.length) (some (w.method.join soFar b)) ws
    | none => values? truths (first + w.comparisons.length) soFar ws

end

mutual

theorem verdict?_eq (row : Record) (truths : Nat → Bool) (first : Nat) (w : Where)
    (h : ∀ i c, w.comparisons[i]? = some c → truths (first + i) = c.holds row) :
    verdict? row w = value? truths first w := by
  cases w with
  | leaf method column op value =>
    have hleaf := h 0 ⟨column, op, value⟩ rfl
    rw [verdict?, value?, show truths first = _ from hleaf]
    rfl
  | group method wheres =>
    rw [verdict?, value?]
    exact verdicts?_eq row truths first none wheres h

/-- The verdict of a filter is its value at what its comparisons say about the row. -/
theorem verdicts?_eq (row : Record) (truths : Nat → Bool) (first : Nat) (soFar : Option Bool) (ws : List Where)
    (h : ∀ i c, (comparisonsOf ws)[i]? = some c → truths (first + i) = c.holds row) :
    verdicts? row soFar ws = values? truths first soFar ws := by
  cases ws with
  | nil => rw [verdicts?, values?]
  | cons w ws =>
    have hw := verdict?_eq row truths first w (by
      intro i c hc
      obtain ⟨hi, -⟩ := List.getElem?_eq_some_iff.1 hc
      refine h i c ?_
      rw [comparisonsOf, List.getElem?_append_left hi, hc])
    have hws : ∀ i c, (comparisonsOf ws)[i]? = some c →
        truths (first + w.comparisons.length + i) = c.holds row := by
      intro i c hc
      rw [Nat.add_assoc]
      refine h (w.comparisons.length + i) c ?_
      rw [comparisonsOf, List.getElem?_append_right (Nat.le_add_right _ _), Nat.add_sub_cancel_left, hc]
    rw [verdicts?, values?, hw]
    cases value? truths first w with
    | none => exact verdicts?_eq row truths _ soFar ws hws
    | some b => exact verdicts?_eq row truths _ _ ws hws

end

end Where

namespace Sql

/-- The texts of comparisons, with the parameters numbered on from one to the next. -/
def textsFrom (t : TableSchema) : Nat → List Comparison → List String
  | _, [] => []
  | n, c :: cs => (c.statement t).textFrom n :: textsFrom t (n + (c.statement t).params.length) cs

/-- The operands of comparisons as parameters. -/
def paramsOf (t : TableSchema) (cs : List Comparison) : List Value :=
  cs.flatMap fun c => (c.statement t).params

theorem textsFrom_append (t : TableSchema) (n : Nat) (cs ds : List Comparison) :
    textsFrom t n (cs ++ ds) = textsFrom t n cs ++ textsFrom t (n + (paramsOf t cs).length) ds := by
  induction cs generalizing n with
  | nil => rfl
  | cons c cs ih => simp [textsFrom, paramsOf, ih, Nat.add_assoc]

theorem length_textsFrom (t : TableSchema) (n : Nat) (cs : List Comparison) :
    (textsFrom t n cs).length = cs.length := by
  induction cs generalizing n with
  | nil => rfl
  | cons c cs ih => simp [textsFrom, ih]

/-- Whether tokens are parts of a predicate. -/
def Plain (ts : List Token) : Prop :=
  ∀ t ∈ ts, t.role = .plain

theorem plain_nil : Plain [] :=
  fun _ h => absurd h List.not_mem_nil

theorem plain_cons {t : Token} {ts : List Token} (h : t.role = .plain) (hts : Plain ts) : Plain (t :: ts) :=
  List.forall_mem_cons.2 ⟨h, hts⟩

theorem plain_castTokens (kind : Option Kind) : Plain (castTokens kind) := by
  cases kind with
  | none => exact plain_nil
  | some k => cases k <;> simp only [Plain, castTokens, Kind.cast] <;> decide

theorem plain_listTokens (kind : Option Kind) (n : Nat) (items : List Value) :
    Plain (listTokens kind n items) := by
  fun_induction listTokens kind n items with
  | case1 n => exact plain_nil
  | case2 n v => exact plain_cons rfl (plain_castTokens kind)
  | case3 n v w vs ih =>
    have hfirst : Plain (.param n :: castTokens kind) := plain_cons rfl (plain_castTokens kind)
    have hrest : Plain (.comma :: listTokens kind (n + 1) (w :: vs)) := plain_cons rfl ih
    exact List.forall_mem_append.2 ⟨hfirst, hrest⟩

/-- The tokens of a comparison are those of a predicate. -/
theorem isPredicate_comparison (t : TableSchema) (n : Nat) (column : String) (op : Operator) (value : Value) :
    IsPredicate (comparisonTokens t n column op value) := by
  have hnull : IsPredicate [.name column, .word "IS", .word "NULL"] :=
    .plain (List.cons_ne_nil _ _) (plain_cons rfl (plain_cons rfl (plain_cons rfl plain_nil)))
  have hnotNull : IsPredicate [.name column, .word "IS", .word "NOT", .word "NULL"] :=
    .plain (List.cons_ne_nil _ _) (plain_cons rfl (plain_cons rfl (plain_cons rfl (plain_cons rfl plain_nil))))
  have hplain : ∀ w : String, (Token.word w).role = .plain →
      IsPredicate (.name column :: .word w :: .param n :: castTokens (t.kind? column)) := by
    intro w hw
    exact .plain (List.cons_ne_nil _ _)
      (plain_cons rfl (plain_cons hw (plain_cons rfl (plain_castTokens _))))
  cases op with
  | isNull => exact hnull
  | notNull => exact hnotNull
  | eq =>
    simp only [comparisonTokens]
    split
    · exact hnull
    · exact hplain _ rfl
  | ne =>
    simp only [comparisonTokens]
    split
    · exact hnotNull
    · exact hplain _ rfl
  | gt => exact hplain _ rfl
  | ge => exact hplain _ rfl
  | lt => exact hplain _ rfl
  | le => exact hplain _ rfl
  | like =>
    exact .plain (List.cons_ne_nil _ _)
      (plain_cons rfl (plain_cons rfl (plain_cons rfl (plain_cons rfl plain_nil))))
  | isIn =>
    simp only [comparisonTokens]
    split
    · exact .plain (List.cons_ne_nil _ _) (plain_cons rfl (plain_cons rfl (plain_cons rfl plain_nil)))
    · have hcolumn : Plain [.name column, .word "IN"] := plain_cons rfl (plain_cons rfl plain_nil)
      exact .listed (List.cons_ne_nil _ _) hcolumn (plain_listTokens _ _ _)

/-- A statement is read as an expression of a level of the grammar, wherever a text may follow that ends it. -/
def ReadAs (level : List Token → Expression → Prop) (s : Statement) (n : Nat) (e : Expression) : Prop :=
  ∃ ts, level ts e ∧ ∀ rest, Stops rest →
    tokensFrom .nothing ((s.textFrom n).toList ++ rest) = ts ++ tokensFrom .nothing rest

theorem ReadAs.reads {s : Statement} {n : Nat} {e : Expression} (h : ReadAs SearchCondition s n e) :
    Reads (s.textFrom n) e := by
  obtain ⟨ts, hts, hread⟩ := h
  rw [Reads, tokens_eq hread]
  exact hts

theorem readAs_comparison (t : TableSchema) (c : Comparison) (n : Nat) :
    ReadAs Primary (c.statement t) n (.leaf (tokens ((c.statement t).textFrom n))) := by
  rw [Comparison.statement, tokens_comparison]
  exact ⟨_, .predicate (isPredicate_comparison t n c.column c.op c.value),
    fun _ h => tokensFrom_comparison t n c.column c.op c.value h⟩

/-- Parentheses around a condition. -/
theorem readAs_group {s : Statement} {n : Nat} {e : Expression} (h : ReadAs SearchCondition s n e) :
    ReadAs Primary (.word "(" :: (s ++ [.word ")"])) n e := by
  obtain ⟨ts, hts, hread⟩ := h
  refine ⟨_, .group hts, fun rest hrest => ?_⟩
  have hinner := hread (')' :: rest) (stops_cons (Or.inr (Or.inl rfl)))
  have houter : tokensFrom .nothing ('(' :: ((s.textFrom n).toList ++ ')' :: rest)) =
      .opening :: (ts ++ .closing :: tokensFrom .nothing rest) :=
    congrArg (List.cons Token.opening) hinner
  simpa [Statement.textFrom, textFrom_append] using houter

/-- What has been written so far in parentheses, and the next condition. -/
theorem readAs_chained {s part : Statement} {n : Nat} {e f : Expression} (conj : Conjunction)
    (hs : ReadAs SearchCondition s n e) (hpart : ReadAs Primary part (n + s.params.length) f) :
    ReadAs SearchCondition (chained (some s) conj part) n
      (match conj with | .and => .and e f | .or => .or e f) := by
  obtain ⟨ts, hts, hread⟩ := hs
  obtain ⟨us, hus, hreadPart⟩ := hpart
  have htext : ∀ rest, Stops rest →
      tokensFrom .nothing (((chained (some s) conj part).textFrom n).toList ++ rest) =
        (.opening :: (ts ++ [.closing])) ++ .word conj.sql :: us ++ tokensFrom .nothing rest := by
    intro rest hrest
    -- the parenthesis ends the last token of what has been written, so that it may be followed by the conjunction
    have hinner := hread (')' :: (" " ++ conj.sql ++ " ").toList ++
      ((part.textFrom (n + s.params.length)).toList ++ rest)) (stops_cons (Or.inr (Or.inl rfl)))
    have hconj : tokensFrom .nothing (')' :: (" " ++ conj.sql ++ " ").toList ++
        ((part.textFrom (n + s.params.length)).toList ++ rest)) =
        .closing :: .word conj.sql :: (us ++ tokensFrom .nothing rest) := by
      rw [← hreadPart rest hrest]
      cases conj <;> rfl
    rw [hconj] at hinner
    have houter : tokensFrom .nothing ('(' :: ((s.textFrom n).toList ++ ')' :: (" " ++ conj.sql ++ " ").toList ++
        ((part.textFrom (n + s.params.length)).toList ++ rest))) =
        .opening :: (ts ++ .closing :: .word conj.sql :: (us ++ tokensFrom .nothing rest)) := by
      rw [List.append_assoc]
      exact congrArg (List.cons Token.opening) hinner
    simpa [chained, Statement.textFrom, textFrom_append] using houter
  cases conj with
  | and => exact ⟨_, .term (.and (.primary (.group hts)) hus), htext⟩
  | or => exact ⟨_, .or (.term (.primary (.group hts))) (.primary hus), htext⟩

/-- What has been written of a filter, and what has been decided of it when its comparisons have given truth
values: nothing at all, or an expression with these comparisons and this value. -/
def Agrees (t : TableSchema) (level : List Token → Expression → Prop) (written : Option Statement)
    (cs : List Comparison) (value : (Nat → Bool) → Nat → Option Bool) : Prop :=
  match written with
  | none => cs = [] ∧ ∀ truths first, value truths first = none
  | some s => s.params = paramsOf t cs ∧ ∀ n, ∃ e, ReadAs level s n e ∧
      e.leaves = (textsFrom t n cs).map tokens ∧ ∀ truths first, value truths first = some (e.valueFrom truths first)

theorem length_leaves {t : TableSchema} {n : Nat} {cs : List Comparison} {e : Expression}
    (h : e.leaves = (textsFrom t n cs).map tokens) : e.leaves.length = cs.length := by
  rw [h, List.length_map, length_textsFrom]

variable {t : TableSchema}

theorem agrees_comparison (c : Comparison) :
    Agrees t Primary (some (c.statement t)) [c] fun truths first => some (truths first) := by
  refine ⟨by simp [paramsOf], fun n => ⟨_, readAs_comparison t c n, rfl, fun truths first => rfl⟩⟩

theorem agrees_group {written : Option Statement} {cs : List Comparison}
    {value : (Nat → Bool) → Nat → Option Bool} (h : Agrees t SearchCondition written cs value) :
    Agrees t Primary (written.map fun s => .word "(" :: (s ++ [.word ")"])) cs value := by
  cases written with
  | none => exact h
  | some s =>
    obtain ⟨hparams, hread⟩ := h
    refine ⟨?_, fun n => ?_⟩
    · simpa [Statement.params, params_append] using hparams
    · obtain ⟨e, hs, hleaves, hvalue⟩ := hread n
      exact ⟨e, readAs_group hs, hleaves, hvalue⟩

/-- One more condition: both sides drop the conjunction of the first one and put parentheses, or the value so far,
before every other one. -/
theorem agrees_chained {written : Option Statement} {part : Statement} {cs ds : List Comparison}
    {value next : (Nat → Bool) → Nat → Option Bool} (conj : Conjunction)
    (h : Agrees t SearchCondition written cs value) (hpart : Agrees t Primary (some part) ds next) :
    Agrees t SearchCondition (some (chained written conj part)) (cs ++ ds) fun truths first =>
      (next truths (first + cs.length)).map (conj.join (value truths first)) := by
  obtain ⟨hnextParams, hnext⟩ := hpart
  cases written with
  | none =>
    obtain ⟨rfl, hnone⟩ := h
    refine ⟨hnextParams, fun n => ?_⟩
    obtain ⟨f, ⟨us, hus, hread⟩, hleaves, hvalue⟩ := hnext n
    refine ⟨f, ⟨us, .term (.primary hus), hread⟩, hleaves, fun truths first => ?_⟩
    simp [hvalue, hnone, Conjunction.join]
  | some s =>
    obtain ⟨hparams, hsoFar⟩ := h
    refine ⟨?_, fun n => ?_⟩
    · simp [chained, Statement.params, params_append, paramsOf, hparams, hnextParams]
    · obtain ⟨e, hs, hleaves, hvalue⟩ := hsoFar n
      obtain ⟨f, hf, hleaves', hvalue'⟩ := hnext (n + s.params.length)
      have htexts : e.leaves ++ f.leaves = (textsFrom t n (cs ++ ds)).map tokens := by
        rw [textsFrom_append, List.map_append, hleaves, hleaves', hparams]
      have hlength := length_leaves hleaves
      refine ⟨_, readAs_chained conj hs hf, ?_, fun truths first => ?_⟩
      · cases conj <;> exact htexts
      · simp only [hvalue, hvalue', ← hlength]
        cases conj <;> rfl

mutual

theorem agrees_condition (t : TableSchema) (w : Where) :
    Agrees t Primary (condition? t w) w.comparisons fun truths first => w.value? truths first := by
  cases w with
  | leaf method column op value =>
    have hleaf : Agrees t Primary (some (comparison t column op value)) [⟨column, op, value⟩] _ :=
      agrees_comparison ⟨column, op, value⟩
    simpa only [condition?, Where.comparisons, Where.value?] using hleaf
  | group method wheres =>
    have hnothing : Agrees t SearchCondition none [] fun _ _ => none := ⟨rfl, fun _ _ => rfl⟩
    have hwheres := agrees_group (agrees_conditions t wheres hnothing)
    simp only [condition?, Where.comparisons, Where.value?]
    cases hwritten : conditions? t none wheres with
    | none => simpa [hwritten] using hwheres
    | some s => simpa [hwritten] using hwheres

/-- Writing a list of conditions keeps up with deciding it. -/
theorem agrees_conditions (t : TableSchema) (ws : List Where) {written : Option Statement} {cs : List Comparison}
    {value : (Nat → Bool) → Nat → Option Bool} (h : Agrees t SearchCondition written cs value) :
    Agrees t SearchCondition (conditions? t written ws) (cs ++ Where.comparisonsOf ws) fun truths first =>
      Where.values? truths (first + cs.length) (value truths first) ws := by
  cases ws with
  | nil => simpa [conditions?, Where.comparisonsOf, Where.values?] using h
  | cons w ws =>
    have hw := agrees_condition t w
    cases hpart : condition? t w with
    | none =>
      -- a node without a comparison changes nothing on either side
      rw [hpart] at hw
      obtain ⟨hcomparisons, hnone⟩ := hw
      have hws := agrees_conditions t ws h
      simpa [conditions?, Where.comparisonsOf, Where.values?, hpart, hcomparisons, hnone] using hws
    | some part =>
      rw [hpart] at hw
      have hsome : ∀ truths first, ∃ b, w.value? truths first = some b := by
        obtain ⟨-, hread⟩ := hw
        obtain ⟨e, -, -, hvalue⟩ := hread 0
        exact fun truths first => ⟨_, hvalue truths first⟩
      -- the rest goes on from what the node makes of the text and of the value so far
      have hws := agrees_conditions t ws (agrees_chained w.method h hw)
      have hvalues : ∀ truths first,
          Where.values? truths (first + (cs ++ w.comparisons).length)
            ((w.value? truths (first + cs.length)).map (w.method.join (value truths first))) ws =
          Where.values? truths (first + cs.length) (value truths first) (w :: ws) := by
        intro truths first
        obtain ⟨b, hb⟩ := hsome truths (first + cs.length)
        simp [Where.values?, hb, Nat.add_assoc]
      simp only [hvalues] at hws
      simpa [conditions?, Where.comparisonsOf, hpart] using hws

end

/-- The text after WHERE means the filter. There is none when no row gets a verdict. When there is one, whatever the
number of its first parameter, SQL reads it in one way: its leaves are the texts of the comparisons from left to
right, its parameters are their operands, its value is the one the filter gets from the same leaf values, and so
the verdict on a row when the leaves say what the comparisons say about the row. -/
theorem where_text_means_filter (t : TableSchema) (ws : List Where) :
    (conditions? t none ws = none ↔ ∀ row, Where.verdicts? row none ws = none) ∧
    ∀ s, conditions? t none ws = some s → s.params = paramsOf t (Where.comparisonsOf ws) ∧
      ∀ n, ∃ e, (∀ f, Reads (s.textFrom n) f ↔ f = e) ∧
        e.leaves = (textsFrom t n (Where.comparisonsOf ws)).map tokens ∧
        (∀ truths, Where.values? truths 0 none ws = some (e.valueFrom truths 0)) ∧
        ∀ row, Where.verdicts? row none ws =
          some (e.valueFrom (Comparison.truths row (Where.comparisonsOf ws)) 0) := by
  have hnothing : Agrees t SearchCondition none [] fun _ _ => none := ⟨rfl, fun _ _ => rfl⟩
  have hagrees := agrees_conditions t ws hnothing
  have hverdict : ∀ row, Where.verdicts? row none ws =
      Where.values? (Comparison.truths row (Where.comparisonsOf ws)) 0 none ws := by
    intro row
    refine Where.verdicts?_eq row _ 0 none ws fun i c hc => ?_
    rw [Nat.zero_add, Comparison.truths, hc]
    rfl
  cases hwritten : conditions? t none ws with
  | none =>
    rw [hwritten] at hagrees
    obtain ⟨-, hnone⟩ := hagrees
    refine ⟨⟨fun _ row => ?_, fun _ => rfl⟩, nofun⟩
    rw [hverdict]
    exact hnone _ 0
  | some s =>
    rw [hwritten] at hagrees
    obtain ⟨hparams, hread⟩ := hagrees
    have hvalued : ∀ n, ∃ e, ReadAs SearchCondition s n e ∧
        e.leaves = (textsFrom t n (Where.comparisonsOf ws)).map tokens ∧
        ∀ truths, Where.values? truths 0 none ws = some (e.valueFrom truths 0) := by
      intro n
      obtain ⟨e, hs, hleaves, hvalue⟩ := hread n
      exact ⟨e, hs, hleaves, fun truths => hvalue truths 0⟩
    refine ⟨⟨nofun, fun hnone => ?_⟩, ?_⟩
    · -- any row will do: a text has a value, and so every row has a verdict
      obtain ⟨e, -, -, hvalue⟩ := hvalued 1
      have hrow := hnone []
      rw [hverdict, hvalue] at hrow
      cases hrow
    · rintro s' hs'
      cases hs'
      refine ⟨hparams, fun n => ?_⟩
      obtain ⟨e, hs, hleaves, hvalue⟩ := hvalued n
      refine ⟨e, fun f => ⟨fun hf => hf.unique hs.reads, ?_⟩, hleaves, hvalue, fun row => ?_⟩
      · rintro rfl
        exact hs.reads
      · rw [hverdict, hvalue]

end Sql

end DataModel

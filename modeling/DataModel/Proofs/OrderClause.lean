import DataModel.Proofs.Placeholder

/-!
# The order that a statement asks for

The clause that orders the rows is read from the tokens of a statement: names between commas behind the words ORDER BY,
each with a direction or, when there is none, ascending. No other clause has the word ORDER, whatever names and values
are in it. So a statement that reads rows asks for the orders of its request, and for that of the primary key when the
request has none and the table is declared.
-/

namespace DataModel.Sql

/-- The orders that tokens begin with, the first of which may have been begun. -/
def ordersFrom : Option Order → List Lexeme → List Order
  | none, .name c :: ls => ordersFrom (some ⟨c, .asc⟩) ls
  | some o, .word "ASC" :: ls => ordersFrom (some { o with direction := .asc }) ls
  | some o, .word "DESC" :: ls => ordersFrom (some { o with direction := .desc }) ls
  | some o, .mark ',' :: ls => o :: ordersFrom none ls
  | some o, _ => [o]
  | none, _ => []

/-- The orders that tokens ask for. -/
def orders : List Lexeme → List Order
  | .word "ORDER" :: .word "BY" :: ls => ordersFrom none ls
  | _ :: ls => orders ls
  | [] => []

theorem orders_append {ls : List Lexeme} (h : .word "ORDER" ∉ ls) (rest : List Lexeme) :
    orders (ls ++ rest) = orders rest := by
  induction ls with
  | nil => rfl
  | cons l ls ih =>
    have hl := List.ne_of_not_mem_cons h
    rw [List.cons_append, orders, ih (List.not_mem_of_not_mem_cons h)]
    rintro _ heq
    exact absurd heq.symm hl

/-- Whether no word of a statement is ORDER. -/
def Orderless (s : Statement) : Prop :=
  ∀ n, .word "ORDER" ∉ s.lexemesFrom n

section Orderless

variable {s s' : Statement} {w : String}

theorem orderless_nil : Orderless [] :=
  fun _ => List.not_mem_nil

theorem orderless_word (hw : .word "ORDER" ∉ lexemes w) (h : Orderless s) : Orderless (.word w :: s) :=
  fun n => List.not_mem_append hw (h n)

theorem orderless_name (x : String) (h : Orderless s) : Orderless (.name x :: s) :=
  fun n => List.not_mem_cons_of_ne_of_not_mem nofun (h n)

theorem orderless_append (h : Orderless s) (h' : Orderless s') : Orderless (s ++ s') := by
  intro n
  rw [lexemesFrom_append]
  exact List.not_mem_append (h n) (h' _)

theorem castLexemes_orderless (kind : Option Kind) : .word "ORDER" ∉ castLexemes (kind.map Kind.cast) := by
  cases kind with
  | none => exact List.not_mem_nil
  | some k => cases k <;> simp only [Option.map_some, Kind.cast] <;> decide

theorem orderless_param (kind : Option Kind) (value : Value) : Orderless [.param value (kind.map Kind.cast)] := by
  intro n
  have hcast := castLexemes_orderless kind
  exact List.not_mem_append (List.not_mem_cons_of_ne_of_not_mem nofun hcast) List.not_mem_nil

theorem orderless_listed {α : Type} {f : α → Statement} {items : List α} (h : ∀ a ∈ items, Orderless (f a)) :
    Orderless (joined ", " (items.map f)) := by
  induction items with
  | nil => exact orderless_nil
  | cons a items ih =>
    rw [List.forall_mem_cons] at h
    cases items with
    | nil => exact h.1
    | cons b items => exact orderless_append h.1 (orderless_word (by decide) (ih h.2))

theorem orderless_comparison (t : TableSchema) (column : String) (op : Operator) (value : Value) :
    Orderless (comparison t column op value) := by
  have hplain : Orderless [.name column, .word (" " ++ op.sql ++ " "), param t column value] := by
    refine orderless_name column (orderless_word ?_ (orderless_param (t.kind? column) value))
    cases op <;> decide
  have hnull : Orderless [.name column, .word " IS NULL"] :=
    orderless_name column (orderless_word (by decide) orderless_nil)
  have hnotNull : Orderless [.name column, .word " IS NOT NULL"] :=
    orderless_name column (orderless_word (by decide) orderless_nil)
  cases op with
  | isNull => exact hnull
  | notNull => exact hnotNull
  | eq =>
    cases hv : value.isNull with
    | true => simpa [comparison, hv] using hnull
    | false => simpa [comparison, hv] using hplain
  | ne =>
    cases hv : value.isNull with
    | true => simpa [comparison, hv] using hnotNull
    | false => simpa [comparison, hv] using hplain
  | like =>
    exact orderless_name column (orderless_word (by decide) (orderless_param none (.text value.display)))
  | isIn =>
    cases hitems : operands value with
    | nil =>
      have hfalse : Orderless [.word "1 = 0"] := orderless_word (by decide) orderless_nil
      simpa [comparison, hitems] using hfalse
    | cons v vs =>
      have hlist : Orderless (joined ", " ((v :: vs).map fun v => [param t column v])) :=
        orderless_listed fun v _ => orderless_param (t.kind? column) v
      have hclosed := orderless_append hlist (orderless_word (w := ")") (by decide) orderless_nil)
      have hamong := orderless_name column (orderless_word (w := " IN (") (by decide) hclosed)
      simpa [comparison, hitems] using hamong
  | _ => exact hplain

theorem orderless_chained {soFar : Option Statement} (h : ∀ s ∈ soFar, Orderless s) (conj : Conjunction)
    {part : Statement} (hpart : Orderless part) : Orderless (chained soFar conj part) := by
  cases soFar with
  | none => exact hpart
  | some before =>
    refine orderless_word (by decide) (orderless_append (h before rfl) (orderless_word ?_ hpart))
    cases conj <;> decide

mutual

theorem orderless_condition? (t : TableSchema) (w : Where) : ∀ s ∈ condition? t w, Orderless s := by
  intro s hs
  cases w with
  | leaf method column op value =>
    rw [condition?] at hs
    rw [← Option.some.inj hs]
    exact orderless_comparison t column op value
  | group method wheres =>
    rw [condition?] at hs
    split at hs
    next inner hinner =>
      have hwheres := @orderless_conditions? t none nofun wheres inner hinner
      rw [← Option.some.inj hs]
      exact orderless_word (by decide) (orderless_append hwheres (orderless_word (by decide) orderless_nil))
    next => cases hs

theorem orderless_conditions? (t : TableSchema) {soFar : Option Statement} (h : ∀ s ∈ soFar, Orderless s)
    (ws : List Where) : ∀ s ∈ conditions? t soFar ws, Orderless s := by
  cases ws with
  | nil =>
    rw [conditions?]
    exact h
  | cons w ws =>
    rw [conditions?]
    split
    next part hpart =>
      have hnode := orderless_condition? t w part hpart
      refine orderless_conditions? t (fun s hs => ?_) ws
      rw [← Option.some.inj hs]
      exact orderless_chained h w.method hnode
    next => exact orderless_conditions? t h ws

end

theorem orderless_whereClause (t : TableSchema) (filter : List Where) : Orderless (whereClause t filter) := by
  unfold whereClause
  split
  next s hs => exact orderless_word (by decide) (@orderless_conditions? t none nofun filter s hs)
  next => exact orderless_nil

theorem orderless_selectList (t : TableSchema) (columns : List String) : Orderless (selectList t columns) := by
  have hselected : ∀ c, Orderless (selected t c) := by
    intro c
    unfold selected
    split
    · exact orderless_name c (orderless_word (by decide) (orderless_name c orderless_nil))
    · exact orderless_name c orderless_nil
  unfold selectList
  split
  · exact orderless_word (by decide) orderless_nil
  · exact orderless_listed fun c _ => hselected c

end Orderless

/-- Whether an order that has been begun ends before tokens. -/
def EndsOrder (ls : List Lexeme) : Prop :=
  ∀ o, ordersFrom (some o) ls = [o]

/-- A keyword is read as such also before a number. -/
theorem lexemes_numbered {keyword : String} (h : Scanner.after .between keyword.toList = .between) (w : String) :
    lexemes (keyword ++ w) = lexemes keyword ++ lexemes w := by
  rw [lexemes, String.toList_append, Scanner.scan_append fun c _ => by rw [h]; rfl]
  rfl

theorem endsOrder_window (limit offset : Option UInt64) (n : Nat) :
    EndsOrder ((numberClause " LIMIT " limit ++ numberClause " OFFSET " offset).lexemesFrom n) := by
  have hoffset : ∀ n, EndsOrder ((numberClause " OFFSET " offset).lexemesFrom n) := by
    intro n o
    cases offset with
    | none => rfl
    | some m =>
      rw [numberClause, Statement.lexemesFrom, Piece.lexemes, lexemes_numbered (by decide)]
      rfl
  cases limit with
  | none => exact hoffset n
  | some m =>
    intro o
    rw [numberClause, lexemesFrom_append, Statement.lexemesFrom, Piece.lexemes, lexemes_numbered (by decide)]
    rfl

theorem ordersFrom_order (o : Order) (n : Nat) (rest : List Lexeme) :
    ordersFrom none (Statement.lexemesFrom n [.name o.column, .word (" " ++ o.direction.sql)] ++ rest) =
      ordersFrom (some o) rest := by
  have hasc : lexemes (" " ++ Direction.asc.sql) = [.word "ASC"] := by decide
  have hdesc : lexemes (" " ++ Direction.desc.sql) = [.word "DESC"] := by decide
  obtain ⟨c, d⟩ := o
  simp only [Statement.lexemesFrom, Piece.lexemes]
  cases d with
  | asc => rw [hasc]; rfl
  | desc => rw [hdesc]; rfl

/-- The orders of a list are read one after the other. -/
theorem ordersFrom_listed {os : List Order} (hne : os ≠ []) {rest : List Lexeme} (hrest : EndsOrder rest) (n : Nat) :
    ordersFrom none ((joined ", " (os.map fun o => [.name o.column, .word (" " ++ o.direction.sql)])).lexemesFrom n ++
      rest) = os := by
  induction os generalizing n with
  | nil => exact absurd rfl hne
  | cons o os ih =>
    cases os with
    | nil => exact (ordersFrom_order o n rest).trans (hrest o)
    | cons o' os =>
      have hcomma : lexemes ", " = [.mark ','] := by decide
      rw [List.map_cons, List.map_cons, joined, lexemesFrom_append, List.append_assoc, ordersFrom_order,
        Statement.lexemesFrom, Piece.lexemes, hcomma]
      exact congrArg (o :: ·) (ih (List.cons_ne_nil o' os) _)

/-- What a statement asks for behind the words ORDER BY. -/
theorem orders_clause {before clause after : Statement} (hbefore : Orderless before) :
    orders ((before ++ (.word " ORDER BY " :: clause ++ after)).lexemesFrom 1) =
      ordersFrom none ((clause ++ after).lexemesFrom (1 + before.params.length)) := by
  have hwords : lexemes " ORDER BY " = [.word "ORDER", .word "BY"] := by decide
  rw [lexemesFrom_append, orders_append (hbefore 1), List.cons_append, Statement.lexemesFrom, Piece.lexemes, hwords]
  rfl

/-- A statement that reads rows of a declared table with a primary key asks for the orders of its request or, when there
are none, for the ascending order of the primary key. -/
theorem orders_select {t : TableSchema} {key : String} (hkey : t.primaryKey = some key) (hcolumns : t.columns ≠ [])
    (schema : String) (s : Selection) :
    orders (lexemes (select schema t s).text) = if s.orders = [] then [⟨key, .asc⟩] else s.orders := by
  obtain ⟨columns, filter, os, limit, offset⟩ := s
  have hbefore : Orderless (.word "SELECT " :: (selectList t columns ++ .word " FROM " ::
      (qualified schema t.name ++ whereClause t filter))) := by
    refine orderless_word (by decide) (orderless_append (orderless_selectList t columns) (orderless_word (by decide) ?_))
    refine orderless_append ?_ (orderless_whereClause t filter)
    exact orderless_name schema (orderless_word (by decide) (orderless_name t.name orderless_nil))
  have hselect : select schema t ⟨columns, filter, os, limit, offset⟩ =
      (.word "SELECT " :: (selectList t columns ++ .word " FROM " ::
        (qualified schema t.name ++ whereClause t filter))) ++
        (orderClause t os ++ (numberClause " LIMIT " limit ++ numberClause " OFFSET " offset)) := by
    simp only [select, List.append_assoc, List.cons_append]
  rw [Statement.text, lexemes_textFrom (legible_select schema t _), hselect]
  cases os with
  | nil =>
    have hclause : orderClause t [] = [.word " ORDER BY ", .name key] := by
      simp only [orderClause, hkey, List.isEmpty_eq_false_iff.2 hcolumns, Bool.false_eq_true, if_false]
    rw [hclause, orders_clause hbefore]
    exact endsOrder_window limit offset _ _
  | cons o os =>
    rw [orderClause, orders_clause hbefore, lexemesFrom_append]
    · exact ordersFrom_listed (List.cons_ne_nil o os) (endsOrder_window limit offset _) _
    · exact nofun
    · exact nofun

example : orders (lexemes "SELECT \"ORDER\" FROM \"s\".\"t\" ORDER BY \"a\" DESC, \"b\" LIMIT 5") =
    [⟨"a", .desc⟩, ⟨"b", .asc⟩] := by
  decide

end DataModel.Sql

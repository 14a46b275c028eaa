import DataModel.Proofs.Statement
import DataModel.Proofs.WhereClause

/-!
# What is quoted stays quoted

Names, comments and defaults may have any characters. In the text of a statement each of them is one token, which
says what was quoted, and every other token is a word, a sign, a mark or a parameter that does not depend on it. So a
name cannot end its own quotation, and two inputs that differ in names and quoted texts only are written with the same
tokens but for the quotations.
-/

namespace DataModel

/-- The columns that a comparison names. A comparison with an empty list names none. -/
def Comparison.named (c : Comparison) : List String :=
  match c.op, Sql.operands c.value with
  | .isIn, [] => []
  | _, _ => [c.column]

/-- A table under another name and with its columns renamed. -/
def TableSchema.renamed (name : String) (f : String → String) (t : TableSchema) : TableSchema :=
  { t with
    name := name
    primaryKey := t.primaryKey.map f
    columns := t.columns.map f
    kinds := t.kinds.map fun e => (f e.1, e.2) }

namespace Where

mutual

/-- A node with its columns renamed. -/
def renamed (f : String → String) : Where → Where
  | leaf method column op value => leaf method (f column) op value
  | group method wheres => group method (renamedAll f wheres)

/-- A list of nodes with their columns renamed. -/
def renamedAll (f : String → String) : List Where → List Where
  | [] => []
  | w :: ws => renamed f w :: renamedAll f ws

end

end Where

/-- A fetch request with its columns renamed. -/
def Selection.renamed (f : String → String) (s : Selection) : Selection :=
  { s with
    columns := s.columns.map f
    filter := Where.renamedAll f s.filter
    orders := s.orders.map fun o => ⟨f o.column, o.direction⟩ }

/-- A row with its columns renamed. -/
def Record.renamed (f : String → String) (row : Record) : Record :=
  row.map fun e => (f e.1, e.2)

/-- Whether two columns to be made differ by a renaming and in what a text default says. -/
structure ColumnDefinition.Alike (f : String → String) (c c' : ColumnDefinition) : Prop where
  name : c'.name = f c.name
  kind : c'.kind = c.kind
  nullable : c'.nullable = c.nullable
  default : c'.default = c.default ∨ ∃ s s', c.default = some (.text s) ∧ c'.default = some (.text s')
  primary : c'.primary = c.primary
  unique : c'.unique = c.unique
  index : c'.index = c.index

namespace Sql

/-- Whether a token is a quotation. -/
def Lexeme.isQuotation : Lexeme → Bool
  | name _ | text _ => true
  | param _ | word _ | sign _ | mark _ | broken => false

/-- A token without what it quotes. -/
def Lexeme.shape : Lexeme → Lexeme
  | name _ => name ""
  | text _ => text ""
  | l => l

namespace Piece

/-- The quotations of a piece. -/
def quotations : Piece → List Lexeme
  | name s => [.name s]
  | literal s => [.text s]
  | word _ | param _ _ => []

/-- A piece without what it quotes, and without its value. -/
def form : Piece → Piece
  | name _ => name ""
  | literal _ => literal ""
  | word w => word w
  | param _ cast => param .null cast

end Piece

/-- The quotations of a statement. -/
def Statement.quotations (s : Statement) : List Lexeme :=
  s.flatMap Piece.quotations

/-- A statement without what it quotes. -/
def Statement.form (s : Statement) : Statement :=
  s.map Piece.form

section Tokens

variable {s s' : Statement} {p : Piece}

theorem filter_plain {ls : List Lexeme} (h : ∀ l ∈ ls, l.isPlain = true) :
    ls.filter Lexeme.isQuotation = [] ∧ Lexeme.broken ∉ ls := by
  refine ⟨List.filter_eq_nil_iff.2 fun l hl => ?_, fun hbroken => by cases h _ hbroken⟩
  have hplain := h l hl
  cases l <;> simp_all [Lexeme.isPlain, Lexeme.isQuotation]

theorem filter_lexemes (h : p.Sound) (n : Nat) :
    (p.lexemes n).filter Lexeme.isQuotation = p.quotations ∧ Lexeme.broken ∉ p.lexemes n := by
  cases p with
  | word w => exact filter_plain (lexemes_plain h).1
  | name s => exact ⟨rfl, by simp [Piece.lexemes]⟩
  | literal s => exact ⟨rfl, by simp [Piece.lexemes]⟩
  | param v cast =>
    obtain ⟨kind, rfl⟩ := h
    obtain ⟨hfilter, hbroken⟩ := filter_plain (castLexemes_plain kind)
    exact ⟨hfilter, by simpa [Piece.lexemes] using hbroken⟩

/-- The quotations among the tokens of a statement are its names and literals. -/
theorem filter_lexemesFrom (h : ∀ p ∈ s, p.Sound) (n : Nat) :
    (s.lexemesFrom n).filter Lexeme.isQuotation = s.quotations ∧ Lexeme.broken ∉ s.lexemesFrom n := by
  induction s generalizing n with
  | nil => exact ⟨rfl, List.not_mem_nil⟩
  | cons p ps ih =>
    rw [List.forall_mem_cons] at h
    obtain ⟨hfirst, hsome⟩ := filter_lexemes h.1 n
    obtain ⟨hrest, hothers⟩ := ih h.2 (n + p.width)
    constructor
    · show (p.lexemes n ++ Statement.lexemesFrom (n + p.width) ps).filter Lexeme.isQuotation = _
      rw [List.filter_append, hfirst, hrest]
      rfl
    · show Lexeme.broken ∉ p.lexemes n ++ Statement.lexemesFrom (n + p.width) ps
      rw [List.mem_append]
      exact fun hbroken => hbroken.elim hsome hothers

/-- The other tokens of a statement do not depend on what it quotes. -/
theorem map_shape_lexemesFrom (s : Statement) (n : Nat) :
    (s.form.lexemesFrom n).map Lexeme.shape = (s.lexemesFrom n).map Lexeme.shape := by
  induction s generalizing n with
  | nil => rfl
  | cons p ps ih =>
    have hwidth : p.form.width = p.width := by cases p <;> rfl
    have hfirst : (p.form.lexemes n).map Lexeme.shape = (p.lexemes n).map Lexeme.shape := by cases p <;> rfl
    show (p.form.lexemes n ++ Statement.lexemesFrom (n + p.form.width) (Statement.form ps)).map Lexeme.shape =
      (p.lexemes n ++ Statement.lexemesFrom (n + p.width) ps).map Lexeme.shape
    rw [List.map_append, List.map_append, hfirst, hwidth, ih]

end Tokens

/-- What statements are built of. -/
inductive Draft where
  | select (t : TableSchema) (s : Selection)
  | count (t : TableSchema) (filter : List Where)
  | insert (t : TableSchema) (row : Record)
  | insertMany (t : TableSchema) (columns : List String) (rows : List (List Value))
  | update (t : TableSchema) (filter : List Where) (values : Record)
  | delete (t : TableSchema) (filter : List Where)
  | createTable (t : TableDefinition)
  | alterTable (table : String) (d : TableDiff)
  | dropTable (table : String)

/-- The statements that are built. -/
def Draft.statements (schema : String) : Draft → List Statement
  | select t s => [Sql.select schema t s]
  | count t filter => [Sql.count schema t filter]
  | insert t row => [Sql.insert schema t row]
  | insertMany t columns rows => [Sql.insertMany schema t columns rows]
  | update t filter values => [Sql.update schema t filter values]
  | delete t filter => [Sql.delete schema t filter]
  | createTable t => Sql.createTable schema t
  | alterTable table d => Sql.alterTable schema table d
  | dropTable table => [Sql.dropTable schema table]

theorem legible_statements (schema : String) (d : Draft) : ∀ s ∈ d.statements schema, Legible s := by
  cases d with
  | select t s => exact List.forall_mem_singleton.2 (legible_select schema t s)
  | count t filter => exact List.forall_mem_singleton.2 (legible_count schema t filter)
  | insert t row => exact List.forall_mem_singleton.2 (legible_insert schema t row)
  | insertMany t columns rows => exact List.forall_mem_singleton.2 (legible_insertMany schema t columns rows)
  | update t filter values => exact List.forall_mem_singleton.2 (legible_update schema t filter values)
  | delete t filter => exact List.forall_mem_singleton.2 (legible_delete schema t filter)
  | createTable t => exact legible_createTable schema t
  | alterTable table d => exact legible_alterTable schema table d
  | dropTable table => exact List.forall_mem_singleton.2 (legible_dropTable schema table)

section Quotations

/-- The names that select a column. A decimal is read as text under its own name. -/
def selectedNames (t : TableSchema) (column : String) : List String :=
  match t.kind? column with
  | some (.decimal _ _) => [column, column]
  | _ => [column]

/-- The names that a fetch request is ordered by. -/
def orderNames (t : TableSchema) (orders : List Order) : List String :=
  if orders.isEmpty then (if t.columns.isEmpty then [] else t.primaryKey.toList) else orders.map Order.column

/-- The columns that a filter names. -/
def filterNames (filter : List Where) : List String :=
  (Where.comparisonsOf filter).flatMap Comparison.named

/-- The quotations of a default: a text as it is, a list or a map as its JSON text. -/
def defaultQuotations : Value → List Lexeme
  | .text s => [.text s]
  | .list items => [.text (Value.list items).jsonText]
  | .map entries => [.text (Value.map entries).jsonText]
  | .null | .bool _ | .int _ | .float _ => []

def columnQuotations (c : ColumnDefinition) : List Lexeme :=
  .name c.name :: (c.default.toList.flatMap defaultQuotations)

/-- The quotations of the statement that makes the index of a column. -/
def indexQuotations (schema table column : String) : List Lexeme :=
  [.name (indexName table column), .name schema, .name table, .name column]

def addQuotations (schema table : String) (c : ColumnDefinition) : List (List Lexeme) :=
  (.name schema :: .name table :: columnQuotations c) ::
    (if c.index && !c.unique then [indexQuotations schema table c.name] else [])

def changeQuotations (schema table : String) (c : ColumnDefinition) : List (List Lexeme) :=
  [[.name schema, .name table, .name c.name] ++ (if c.kind.maxLength.isSome then [] else [.name c.name]),
    [.name schema, .name table, .name c.name]]

/-- The quotations that the statements have to have, statement by statement and in order. -/
def Draft.quotations (schema : String) : Draft → List (List Lexeme)
  | select t s =>
    [((if s.columns.isEmpty then t.columns else s.columns).flatMap (selectedNames t) ++ [schema, t.name] ++
      filterNames s.filter ++ orderNames t s.orders).map .name]
  | count t filter | delete t filter => [([schema, t.name] ++ filterNames filter).map .name]
  | insert t row => [([schema, t.name] ++ row.keys ++ t.primaryKey.toList).map .name]
  | insertMany t columns _ => [([schema, t.name] ++ columns).map .name]
  | update t filter values => [([schema, t.name] ++ values.keys ++ filterNames filter).map .name]
  | createTable t =>
    [[.name schema, .name t.name] ++ t.columns.flatMap columnQuotations] ++
      (t.columns.filter fun c => c.index && !c.primary && !c.unique).map
        (fun c => indexQuotations schema t.name c.name) ++
      t.comment.toList.map (fun comment => [.name schema, .name t.name, .text comment])
  | alterTable table d => d.add.flatMap (addQuotations schema table) ++ d.change.flatMap (changeQuotations schema table)
  | dropTable table => [[.name schema, .name table]]

variable {s s' : Statement} {sep : String}

@[simp] theorem quotations_nil : Statement.quotations [] = [] :=
  rfl

@[simp] theorem quotations_word (w : String) (s : Statement) :
    Statement.quotations (.word w :: s) = Statement.quotations s :=
  rfl

@[simp] theorem quotations_name (x : String) (s : Statement) :
    Statement.quotations (.name x :: s) = .name x :: Statement.quotations s :=
  rfl

@[simp] theorem quotations_literal (x : String) (s : Statement) :
    Statement.quotations (.literal x :: s) = .text x :: Statement.quotations s :=
  rfl

@[simp] theorem quotations_param (t : TableSchema) (column : String) (v : Value) (s : Statement) :
    Statement.quotations (param t column v :: s) = Statement.quotations s :=
  rfl

@[simp] theorem quotations_append (s s' : Statement) :
    Statement.quotations (s ++ s') = Statement.quotations s ++ Statement.quotations s' :=
  List.flatMap_append

theorem quotations_joined (sep : String) (parts : List Statement) :
    Statement.quotations (joined sep parts) = parts.flatMap Statement.quotations := by
  fun_induction joined sep parts with
  | case1 => rfl
  | case2 s => simp
  | case3 s t rest ih => simp [ih]

@[simp] theorem quotations_listed {α : Type} (f : α → Statement) (items : List α) :
    Statement.quotations (joined ", " (items.map f)) = items.flatMap fun a => Statement.quotations (f a) := by
  rw [quotations_joined, List.flatMap_map]

@[simp] theorem quotations_qualified (schema table : String) :
    Statement.quotations (qualified schema table) = [.name schema, .name table] :=
  rfl

theorem quotations_comparison (t : TableSchema) (c : Comparison) :
    Statement.quotations (c.statement t) = c.named.map Lexeme.name := by
  obtain ⟨column, op, value⟩ := c
  cases op with
  | eq =>
    show Statement.quotations (if value.isNull then _ else _) = _
    split <;> rfl
  | ne =>
    show Statement.quotations (if value.isNull then _ else _) = _
    split <;> rfl
  | isIn =>
    simp only [Comparison.statement, comparison, Comparison.named]
    cases operands value with
    | nil => rfl
    | cons v vs =>
      show Statement.quotations ([.name column, .word " IN ("] ++
        joined ", " ((v :: vs).map fun v => [param t column v]) ++ [.word ")"]) = [.name column]
      rw [quotations_append, quotations_append, quotations_listed]
      simp
  | _ => rfl

mutual

theorem quotations_condition? (t : TableSchema) (w : Where) :
    Statement.quotations ((condition? t w).getD []) = (w.comparisons.flatMap Comparison.named).map Lexeme.name := by
  cases w with
  | leaf method column op value =>
    rw [condition?, Where.comparisons, List.flatMap_singleton]
    exact quotations_comparison t ⟨column, op, value⟩
  | group method wheres =>
    have hwheres := quotations_conditions? t none wheres
    rw [condition?, Where.comparisons]
    show _ = (filterNames wheres).map Lexeme.name
    cases hinner : conditions? t none wheres with
    | none => simpa [hinner] using hwheres
    | some inner => simpa [hinner] using hwheres

/-- The quotations of a filter are the columns it names, from left to right. -/
theorem quotations_conditions? (t : TableSchema) (soFar : Option Statement) (ws : List Where) :
    Statement.quotations ((conditions? t soFar ws).getD []) =
      Statement.quotations (soFar.getD []) ++ (filterNames ws).map Lexeme.name := by
  cases ws with
  | nil => simp [conditions?, filterNames, Where.comparisonsOf]
  | cons w ws =>
    have hnode := quotations_condition? t w
    rw [conditions?]
    cases hpart : condition? t w with
    | none =>
      have hrest := quotations_conditions? t soFar ws
      simp_all [filterNames, Where.comparisonsOf]
    | some part =>
      have hrest := quotations_conditions? t (some (chained soFar w.method part)) ws
      cases soFar <;> simp_all [filterNames, Where.comparisonsOf, chained]

end

@[simp] theorem quotations_whereClause (t : TableSchema) (filter : List Where) :
    Statement.quotations (whereClause t filter) = (filterNames filter).map Lexeme.name := by
  have hfilter := quotations_conditions? t none filter
  unfold whereClause
  cases hs : conditions? t none filter with
  | none => simpa [hs] using hfilter
  | some s => simpa [hs] using hfilter

theorem quotations_selected (t : TableSchema) (column : String) :
    Statement.quotations (selected t column) = (selectedNames t column).map Lexeme.name := by
  unfold selected selectedNames
  cases t.kind? column with
  | none => rfl
  | some k => cases k <;> rfl

@[simp] theorem quotations_selectList (t : TableSchema) (columns : List String) :
    Statement.quotations (selectList t columns) =
      ((if columns.isEmpty then t.columns else columns).flatMap (selectedNames t)).map Lexeme.name := by
  unfold selectList
  generalize (if columns.isEmpty then t.columns else columns) = cs
  cases cs with
  | nil => rfl
  | cons c cs =>
    show Statement.quotations (joined ", " ((c :: cs).map (selected t))) = _
    rw [quotations_listed, List.map_flatMap]
    exact List.flatMap_congr fun c _ => quotations_selected t c

@[simp] theorem quotations_orderClause (t : TableSchema) (orders : List Order) :
    Statement.quotations (orderClause t orders) = (orderNames t orders).map Lexeme.name := by
  cases orders with
  | nil =>
    unfold orderClause orderNames
    cases t.primaryKey with
    | none => cases t.columns <;> rfl
    | some key => cases t.columns <;> rfl
  | cons o os =>
    have hclause : orderClause t (o :: os) = .word " ORDER BY " ::
        joined ", " ((o :: os).map fun o => [.name o.column, .word (" " ++ o.direction.sql)]) := by
      unfold orderClause
      cases t.primaryKey <;> rfl
    show _ = ((o :: os).map Order.column).map Lexeme.name
    rw [hclause, quotations_word, quotations_listed, List.map_map]
    exact List.flatMap_pure_eq_map _ (o :: os)

@[simp] theorem quotations_numberClause (keyword : String) (n : Option UInt64) :
    Statement.quotations (numberClause keyword n) = [] := by
  cases n <;> rfl

@[simp] theorem quotations_names (columns : List String) :
    Statement.quotations (names columns) = columns.map Lexeme.name := by
  rw [names, quotations_listed]
  exact List.flatMap_pure_eq_map _ columns

@[simp] theorem quotations_returning (t : TableSchema) :
    Statement.quotations (returning t) = t.primaryKey.toList.map Lexeme.name := by
  unfold returning
  cases t.primaryKey <;> rfl

/-- Parameters quote nothing. -/
@[simp] theorem quotations_params (t : TableSchema) (entries : List (String × Value)) :
    Statement.quotations (joined ", " (entries.map fun e => [param t e.1 e.2])) = [] := by
  rw [quotations_listed]
  exact List.flatMap_eq_nil_iff.2 fun _ _ => rfl

@[simp] theorem quotations_tuple (t : TableSchema) (columns : List String) (row : List Value) :
    Statement.quotations (tuple t columns row) = [] := by
  rw [tuple, quotations_word, quotations_append, quotations_params]
  rfl

@[simp] theorem quotations_defaultLiteral (v : Value) :
    Statement.quotations (defaultLiteral v) = defaultQuotations v := by
  cases v with
  | bool b => cases b <;> rfl
  | _ => rfl

@[simp] theorem quotations_columnClause (c : ColumnDefinition) :
    Statement.quotations (columnClause c) = columnQuotations c := by
  unfold columnClause columnQuotations
  cases c.primary <;> cases c.nullable <;> cases c.unique <;> cases c.default <;> simp

@[simp] theorem quotations_createIndex (schema table column : String) :
    Statement.quotations (createIndex schema table column) = indexQuotations schema table column :=
  rfl

theorem quotations_addColumn (schema table : String) (c : ColumnDefinition) :
    (addColumn schema table c).map Statement.quotations = addQuotations schema table c := by
  unfold addColumn addQuotations
  cases c.index && !c.unique <;> simp

theorem quotations_changeColumn (schema table : String) (c : ColumnDefinition) :
    (changeColumn schema table c).map Statement.quotations = changeQuotations schema table c := by
  unfold changeColumn changeQuotations
  cases c.kind.maxLength <;> simp

/-- The quotations of the statements are those they have to have. -/
theorem quotations_statements (schema : String) (d : Draft) :
    (d.statements schema).map Statement.quotations = d.quotations schema := by
  cases d with
  | select t s => simp [Draft.statements, Draft.quotations, Sql.select]
  | count t filter => simp [Draft.statements, Draft.quotations, Sql.count]
  | insert t row =>
    cases row with
    | nil => simp [Draft.statements, Draft.quotations, Sql.insert, Assoc.keys]
    | cons e row =>
      have hparams := quotations_params t (e :: row)
      show [Statement.quotations (Sql.insert schema t (e :: row))] = _
      rw [insert_cons]
      simp only [quotations_append, quotations_word, hparams]
      simp [Draft.quotations]
  | insertMany t columns rows => simp [Draft.statements, Draft.quotations, Sql.insertMany]
  | update t filter values =>
    have hset : Statement.quotations (joined ", " (values.map fun e => [.name e.1, .word " = ", param t e.1 e.2])) =
        values.keys.map Lexeme.name := by
      rw [quotations_listed, Assoc.keys, List.map_map]
      exact List.flatMap_pure_eq_map _ values
    simp [Draft.statements, Draft.quotations, Sql.update, hset]
  | delete t filter => simp [Draft.statements, Draft.quotations, Sql.delete]
  | createTable t =>
    show (Sql.createTable schema t).map Statement.quotations = _
    cases hcomment : t.comment <;>
      simp [Sql.createTable, Draft.quotations, hcomment, Function.comp_def]
  | alterTable table d =>
    show (Sql.alterTable schema table d).map Statement.quotations = _
    rw [Sql.alterTable, List.map_append, List.map_flatMap, List.map_flatMap, Draft.quotations]
    simp only [quotations_addColumn, quotations_changeColumn]
  | dropTable table => rfl

end Quotations

/-- Whether two inputs differ by a renaming of the columns, by other names of the table, and in what a comment or a
text default says. -/
inductive Draft.Alike (f : String → String) : Draft → Draft → Prop where
  | select (name : String) (t : TableSchema) (s : Selection) :
    Alike f (select t s) (select (t.renamed name f) (s.renamed f))
  | count (name : String) (t : TableSchema) (filter : List Where) :
    Alike f (count t filter) (count (t.renamed name f) (Where.renamedAll f filter))
  | insert (name : String) (t : TableSchema) (row : Record) :
    Alike f (insert t row) (insert (t.renamed name f) (row.renamed f))
  | insertMany (name : String) (t : TableSchema) (columns : List String) (rows : List (List Value)) :
    Alike f (insertMany t columns rows) (insertMany (t.renamed name f) (columns.map f) rows)
  | update (name : String) (t : TableSchema) (filter : List Where) (values : Record) :
    Alike f (update t filter values) (update (t.renamed name f) (Where.renamedAll f filter) (values.renamed f))
  | delete (name : String) (t : TableSchema) (filter : List Where) :
    Alike f (delete t filter) (delete (t.renamed name f) (Where.renamedAll f filter))
  | createTable {t t' : TableDefinition} (columns : List.Forall₂ (ColumnDefinition.Alike f) t.columns t'.columns)
    (comment : t'.comment.isSome = t.comment.isSome) : Alike f (createTable t) (createTable t')
  | alterTable (table name : String) {d d' : TableDiff} (add : List.Forall₂ (ColumnDefinition.Alike f) d.add d'.add)
    (change : List.Forall₂ (ColumnDefinition.Alike f) d.change d'.change) :
    Alike f (alterTable table d) (alterTable name d')
  | dropTable (table name : String) : Alike f (dropTable table) (dropTable name)

section Renaming

variable {f : String → String} {t : TableSchema} {name : String}

@[simp] theorem form_nil : Statement.form [] = [] :=
  rfl

@[simp] theorem form_word (w : String) (s : Statement) : Statement.form (.word w :: s) = .word w :: Statement.form s :=
  rfl

@[simp] theorem form_name (x : String) (s : Statement) : Statement.form (.name x :: s) = .name "" :: Statement.form s :=
  rfl

@[simp] theorem form_literal (x : String) (s : Statement) :
    Statement.form (.literal x :: s) = .literal "" :: Statement.form s :=
  rfl

@[simp] theorem form_append (s s' : Statement) :
    Statement.form (s ++ s') = Statement.form s ++ Statement.form s' :=
  List.map_append

@[simp] theorem form_qualified (schema table : String) :
    Statement.form (qualified schema table) = [.name "", .word ".", .name ""] :=
  rfl

theorem form_joined (sep : String) (parts : List Statement) :
    Statement.form (joined sep parts) = joined sep (parts.map Statement.form) := by
  fun_induction joined sep parts with
  | case1 => rfl
  | case2 s => rfl
  | case3 s t rest ih =>
    rw [form_append, form_word, ih]
    rfl

/-- Lists have the same form when their items have. -/
theorem form_listed {α β : Type} {g : α → Statement} {h : β → Statement} {items : List α} {items' : List β}
    (heq : List.Forall₂ (fun a b => Statement.form (h b) = Statement.form (g a)) items items') :
    Statement.form (joined ", " (items'.map h)) = Statement.form (joined ", " (items.map g)) := by
  have hforms : (items'.map h).map Statement.form = (items.map g).map Statement.form := by
    induction heq with
    | nil => rfl
    | cons hab _ ih => rw [List.map_cons, List.map_cons, List.map_cons, List.map_cons, hab, ih]
  rw [form_joined, form_joined, hforms]

theorem form_renamed {α : Type} {r : α → α} {g h : α → Statement}
    (heq : ∀ a, Statement.form (h (r a)) = Statement.form (g a)) (items : List α) :
    Statement.form (joined ", " ((items.map r).map h)) = Statement.form (joined ", " (items.map g)) := by
  refine form_listed ?_
  rw [List.forall₂_map_right_iff]
  exact List.forall₂_same.2 fun a _ => heq a

/-- A renaming keeps the kinds of the columns. -/
theorem kind?_renamed (hf : Function.Injective f) (name : String) (t : TableSchema) (column : String) :
    (t.renamed name f).kind? (f column) = t.kind? column := by
  show Assoc.get? (t.kinds.map fun e => (f e.1, e.2)) (f column) = Assoc.get? t.kinds column
  induction t.kinds with
  | nil => rfl
  | cons e kinds ih =>
    simp only [List.map_cons, Assoc.get?, hf.eq_iff]
    rw [ih]

theorem form_param (hf : Function.Injective f) (column : String) (v : Value) :
    Statement.form [param (t.renamed name f) (f column) v] = Statement.form [param t column v] := by
  show [Piece.param .null (((t.renamed name f).kind? (f column)).map Kind.cast)] = _
  rw [kind?_renamed hf]
  rfl

theorem form_comparison (hf : Function.Injective f) (column : String) (op : Operator) (value : Value) :
    Statement.form (comparison (t.renamed name f) (f column) op value) =
      Statement.form (comparison t column op value) := by
  have hplain : ∀ w, Statement.form [.name (f column), .word w, param (t.renamed name f) (f column) value] =
      Statement.form [.name column, .word w, param t column value] := by
    intro w
    rw [form_name, form_word, form_param hf]
    rfl
  cases op with
  | isNull => rfl
  | notNull => rfl
  | like => rfl
  | eq =>
    simp only [comparison]
    split
    · rfl
    · exact hplain _
  | ne =>
    simp only [comparison]
    split
    · rfl
    · exact hplain _
  | isIn =>
    simp only [comparison]
    cases operands value with
    | nil => rfl
    | cons v vs =>
      have hitems : Statement.form (joined ", " ((v :: vs).map fun v => [param (t.renamed name f) (f column) v])) =
          Statement.form (joined ", " ((v :: vs).map fun v => [param t column v])) :=
        form_listed (List.forall₂_same.2 fun v _ => form_param hf column v)
      simp only [form_append, hitems]
      rfl
  | _ => exact hplain _

theorem form_chained {soFar soFar' : Option Statement} {part part' : Statement}
    (h : soFar'.map Statement.form = soFar.map Statement.form) (conj : Conjunction)
    (hpart : Statement.form part' = Statement.form part) :
    Statement.form (chained soFar' conj part') = Statement.form (chained soFar conj part) := by
  cases soFar with
  | none =>
    rw [Option.map_none, Option.map_eq_none_iff] at h
    rw [h]
    exact hpart
  | some before =>
    obtain ⟨before', rfl, hbefore⟩ := Option.map_eq_some_iff.1 h
    simp [chained, hbefore, hpart]

mutual

theorem form_condition? (hf : Function.Injective f) (w : Where) :
    (condition? (t.renamed name f) (w.renamed f)).map Statement.form = (condition? t w).map Statement.form := by
  cases w with
  | leaf method column op value =>
    rw [Where.renamed, condition?, condition?]
    exact congrArg some (form_comparison hf column op value)
  | group method wheres =>
    have hnone : (none : Option Statement).map Statement.form = (none : Option Statement).map Statement.form := rfl
    have hwheres := form_conditions? hf hnone wheres
    rw [Where.renamed, condition?, condition?]
    cases hinner : conditions? t none wheres with
    | none =>
      rw [hinner, Option.map_none, Option.map_eq_none_iff] at hwheres
      rw [hwheres]
    | some inner =>
      rw [hinner] at hwheres
      obtain ⟨inner', hinner', hform⟩ := Option.map_eq_some_iff.1 hwheres
      rw [hinner']
      simp [hform]

theorem form_conditions? (hf : Function.Injective f) {soFar soFar' : Option Statement}
    (h : soFar'.map Statement.form = soFar.map Statement.form) (ws : List Where) :
    (conditions? (t.renamed name f) soFar' (Where.renamedAll f ws)).map Statement.form =
      (conditions? t soFar ws).map Statement.form := by
  cases ws with
  | nil =>
    rw [Where.renamedAll, conditions?, conditions?]
    exact h
  | cons w ws =>
    have hnode := form_condition? hf w
    rw [Where.renamedAll, conditions?, conditions?]
    cases hpart : condition? t w with
    | none =>
      rw [hpart, Option.map_none, Option.map_eq_none_iff] at hnode
      rw [hnode]
      exact form_conditions? hf h ws
    | some part =>
      rw [hpart] at hnode
      obtain ⟨part', hpart', hform⟩ := Option.map_eq_some_iff.1 hnode
      have hmethod : (w.renamed f).method = w.method := by
        cases w <;> simp [Where.renamed, Where.method]
      have hchained := form_chained h w.method hform
      have hsome : (some (chained soFar' w.method part')).map Statement.form =
          (some (chained soFar w.method part)).map Statement.form := congrArg some hchained
      rw [hpart', hmethod]
      exact form_conditions? hf hsome ws

end

theorem form_whereClause (hf : Function.Injective f) (name : String) (t : TableSchema) (filter : List Where) :
    Statement.form (whereClause (t.renamed name f) (Where.renamedAll f filter)) =
      Statement.form (whereClause t filter) := by
  have hnone : (none : Option Statement).map Statement.form = (none : Option Statement).map Statement.form := rfl
  have hfilter : (conditions? (t.renamed name f) none (Where.renamedAll f filter)).map Statement.form =
      (conditions? t none filter).map Statement.form := form_conditions? hf hnone filter
  unfold whereClause
  cases hs : conditions? t none filter with
  | none =>
    rw [hs, Option.map_none, Option.map_eq_none_iff] at hfilter
    rw [hfilter]
  | some s =>
    rw [hs] at hfilter
    obtain ⟨s', hs', hform⟩ := Option.map_eq_some_iff.1 hfilter
    rw [hs']
    exact congrArg (List.cons _) hform

theorem form_selectList (hf : Function.Injective f) (name : String) (t : TableSchema) (columns : List String) :
    Statement.form (selectList (t.renamed name f) (columns.map f)) = Statement.form (selectList t columns) := by
  have hselected : ∀ c, Statement.form (selected (t.renamed name f) (f c)) = Statement.form (selected t c) := by
    intro c
    unfold selected
    rw [kind?_renamed hf]
    cases t.kind? c with
    | none => rfl
    | some k => cases k <;> rfl
  have hchosen : (if (columns.map f).isEmpty then (t.renamed name f).columns else columns.map f) =
      (if columns.isEmpty then t.columns else columns).map f := by
    cases columns <;> rfl
  unfold selectList
  rw [hchosen]
  cases (if columns.isEmpty then t.columns else columns) with
  | nil => rfl
  | cons c cs => exact form_renamed hselected (c :: cs)

theorem form_orderClause (name : String) (t : TableSchema) (orders : List Order) :
    Statement.form (orderClause (t.renamed name f) (orders.map fun o => ⟨f o.column, o.direction⟩)) =
      Statement.form (orderClause t orders) := by
  obtain ⟨table, key, auto, columns, kinds⟩ := t
  cases orders with
  | nil => cases key <;> cases columns <;> rfl
  | cons o os =>
    have horders := form_renamed (r := fun o : Order => ⟨f o.column, o.direction⟩)
      (g := fun o => [.name o.column, .word (" " ++ o.direction.sql)])
      (h := fun o => [.name o.column, .word (" " ++ o.direction.sql)]) (fun o => rfl) (o :: os)
    cases key <;> exact congrArg (List.cons _) horders

theorem form_names (columns : List String) :
    Statement.form (names (columns.map f)) = Statement.form (names columns) :=
  form_renamed (r := f) (g := fun c => [.name c]) (h := fun c => [.name c]) (fun _ => rfl) columns

theorem form_returning (name : String) (t : TableSchema) :
    Statement.form (returning (t.renamed name f)) = Statement.form (returning t) := by
  obtain ⟨table, key, auto, columns, kinds⟩ := t
  cases key <;> rfl

theorem form_tuple (hf : Function.Injective f) (name : String) (t : TableSchema) (columns : List String)
    (row : List Value) :
    Statement.form (tuple (t.renamed name f) (columns.map f) row) = Statement.form (tuple t columns row) := by
  have hzip : (columns.map f).zip row = (columns.zip row).map fun e => (f e.1, e.2) := List.zip_map_left ..
  have hvalues := form_renamed (r := fun e : String × Value => (f e.1, e.2))
    (g := fun e => [param t e.1 e.2]) (h := fun e => [param (t.renamed name f) e.1 e.2])
    (fun e => form_param hf e.1 e.2) (columns.zip row)
  rw [tuple, tuple, hzip, form_word, form_word, form_append, form_append, hvalues]

theorem form_insert (hf : Function.Injective f) (schema schema' name : String) (t : TableSchema) (row : Record) :
    Statement.form (insert schema' (t.renamed name f) (row.renamed f)) = Statement.form (insert schema t row) := by
  have hreturning := form_returning (f := f) name t
  cases row with
  | nil =>
    show Statement.form (insert schema' (t.renamed name f) []) = _
    rw [insert_nil, insert_nil]
    simp [hreturning]
  | cons e row =>
    have hkeys : Assoc.keys ((f e.1, e.2) :: row.map fun e => (f e.1, e.2)) = (Assoc.keys (e :: row)).map f := by
      simp [Assoc.keys, Function.comp_def]
    have hvalues := form_renamed (r := fun e : String × Value => (f e.1, e.2))
      (g := fun e => [param t e.1 e.2]) (h := fun e => [param (t.renamed name f) e.1 e.2])
      (fun e => form_param hf e.1 e.2) (e :: row)
    rw [List.map_cons] at hvalues
    show Statement.form (insert schema' (t.renamed name f) ((f e.1, e.2) :: row.map fun e => (f e.1, e.2))) = _
    rw [insert_cons, insert_cons]
    simp only [form_append, form_word, hkeys, form_names, hvalues, hreturning, form_qualified]

theorem form_select (hf : Function.Injective f) (schema schema' name : String) (t : TableSchema) (s : Selection) :
    Statement.form (select schema' (t.renamed name f) (s.renamed f)) = Statement.form (select schema t s) := by
  have horders := form_orderClause (f := f) name t s.orders
  simp only [select, Selection.renamed, form_word, form_append, form_selectList hf, form_qualified,
    form_whereClause hf, horders]

theorem form_filtered (hf : Function.Injective f) (keyword schema schema' name : String) (t : TableSchema)
    (filter : List Where) :
    Statement.form (.word keyword :: (qualified schema' (t.renamed name f).name ++
        whereClause (t.renamed name f) (Where.renamedAll f filter))) =
      Statement.form (.word keyword :: (qualified schema t.name ++ whereClause t filter)) := by
  simp only [form_word, form_append, form_qualified, form_whereClause hf]

theorem form_insertMany (hf : Function.Injective f) (schema schema' name : String) (t : TableSchema)
    (columns : List String) (rows : List (List Value)) :
    Statement.form (insertMany schema' (t.renamed name f) (columns.map f) rows) =
      Statement.form (insertMany schema t columns rows) := by
  have htuples := form_listed (g := tuple t columns) (h := tuple (t.renamed name f) (columns.map f))
    (List.forall₂_same.2 fun row (_ : row ∈ rows) => form_tuple hf name t columns row)
  simp only [insertMany, form_word, form_append, form_qualified, form_names, htuples]

theorem form_update (hf : Function.Injective f) (schema schema' name : String) (t : TableSchema)
    (filter : List Where) (values : Record) :
    Statement.form (update schema' (t.renamed name f) (Where.renamedAll f filter) (values.renamed f)) =
      Statement.form (update schema t filter values) := by
  have hset : ∀ e : String × Value,
      Statement.form [.name (f e.1), .word " = ", param (t.renamed name f) (f e.1) e.2] =
        Statement.form [.name e.1, .word " = ", param t e.1 e.2] := by
    intro e
    rw [form_name, form_word, form_param hf]
    rfl
  have hsets := form_renamed (r := fun e : String × Value => (f e.1, e.2))
    (g := fun e => [.name e.1, .word " = ", param t e.1 e.2])
    (h := fun e => [.name e.1, .word " = ", param (t.renamed name f) e.1 e.2]) hset values
  simp only [update, Record.renamed, form_word, form_append, form_qualified, hsets, form_whereClause hf]

theorem form_columnClause {c c' : ColumnDefinition} (h : c.Alike f c') :
    Statement.form (columnClause c') = Statement.form (columnClause c) := by
  rcases h.default with hdefault | ⟨s, s', hs, hs'⟩
  · simp [columnClause, h.kind, h.nullable, h.primary, h.unique, hdefault]
  · simp [columnClause, h.kind, h.nullable, h.primary, h.unique, hs, hs', defaultLiteral]

theorem form_createIndex (schema schema' table table' column column' : String) :
    Statement.form (createIndex schema' table' column') = Statement.form (createIndex schema table column) :=
  rfl

/-- Forms of statements that are built for one column after the other. -/
theorem map_form_eq {columns columns' : List ColumnDefinition}
    (h : List.Forall₂ (ColumnDefinition.Alike f) columns columns') (g g' : ColumnDefinition → List Statement)
    (hg : ∀ c c', c.Alike f c' → (g' c').map Statement.form = (g c).map Statement.form) :
    (columns'.flatMap g').map Statement.form = (columns.flatMap g).map Statement.form := by
  induction h with
  | nil => rfl
  | cons hc _ ih => rw [List.flatMap_cons, List.flatMap_cons, List.map_append, List.map_append, hg _ _ hc, ih]

theorem form_addColumn (schema schema' table table' : String) {c c' : ColumnDefinition} (h : c.Alike f c') :
    (addColumn schema' table' c').map Statement.form = (addColumn schema table c).map Statement.form := by
  have hcolumn := form_columnClause h
  unfold addColumn
  rw [h.index, h.unique]
  cases c.index && !c.unique <;> simp [hcolumn, form_createIndex schema schema' table table' c.name c'.name]

theorem form_changeColumn (schema schema' table table' : String) {c c' : ColumnDefinition} (h : c.Alike f c') :
    (changeColumn schema' table' c').map Statement.form = (changeColumn schema table c).map Statement.form := by
  unfold changeColumn
  rw [h.kind, h.nullable]
  cases c.kind.maxLength <;> simp

theorem form_indexes (schema schema' table table' : String) {columns columns' : List ColumnDefinition}
    (h : List.Forall₂ (ColumnDefinition.Alike f) columns columns') :
    ((columns'.filter fun c => c.index && !c.primary && !c.unique).map
        fun c => createIndex schema' table' c.name).map Statement.form =
      ((columns.filter fun c => c.index && !c.primary && !c.unique).map
        fun c => createIndex schema table c.name).map Statement.form := by
  induction h with
  | nil => rfl
  | @cons c c' columns columns' hc _ ih =>
    rw [List.filter_cons, List.filter_cons, hc.index, hc.primary, hc.unique]
    split
    · rw [List.map_cons, List.map_cons, List.map_cons, List.map_cons, ih,
        form_createIndex schema schema' table table' c.name c'.name]
    · exact ih

theorem form_createTable (schema schema' : String) {t t' : TableDefinition}
    (hcolumns : List.Forall₂ (ColumnDefinition.Alike f) t.columns t'.columns)
    (hcomment : t'.comment.isSome = t.comment.isSome) :
    (createTable schema' t').map Statement.form = (createTable schema t).map Statement.form := by
  have hlist := form_listed (hcolumns.imp fun c c' h => form_columnClause h)
  have hindexes := form_indexes schema schema' t.name t'.name hcolumns
  unfold createTable
  rw [List.map_append, List.map_append, List.map_append, List.map_append, hindexes]
  obtain ⟨table, comment, columns⟩ := t
  obtain ⟨table', comment', columns'⟩ := t'
  cases comment <;> cases comment' <;> simp_all

/-- Inputs that are alike are written in the same form. -/
theorem form_statements (hf : Function.Injective f) (schema schema' : String) {d d' : Draft} (h : d.Alike f d') :
    (d'.statements schema').map Statement.form = (d.statements schema).map Statement.form := by
  cases h with
  | select name t s => exact congrArg (fun s => [s]) (form_select hf schema schema' name t s)
  | count name t filter => exact congrArg (fun s => [s]) (form_filtered hf _ schema schema' name t filter)
  | insert name t row => exact congrArg (fun s => [s]) (form_insert hf schema schema' name t row)
  | insertMany name t columns rows =>
    exact congrArg (fun s => [s]) (form_insertMany hf schema schema' name t columns rows)
  | update name t filter values => exact congrArg (fun s => [s]) (form_update hf schema schema' name t filter values)
  | delete name t filter => exact congrArg (fun s => [s]) (form_filtered hf _ schema schema' name t filter)
  | createTable columns comment => exact form_createTable schema schema' columns comment
  | @alterTable table name d d' add change =>
    have hadd := map_form_eq add (addColumn schema table) (addColumn schema' name)
      fun c c' hc => form_addColumn schema schema' table name hc
    have hchange := map_form_eq change (changeColumn schema table) (changeColumn schema' name)
      fun c c' hc => form_changeColumn schema schema' table name hc
    show (alterTable schema' name d').map Statement.form = (alterTable schema table d).map Statement.form
    rw [alterTable, alterTable, List.map_append, List.map_append, hadd, hchange]
  | dropTable table name => rfl

end Renaming

theorem quotedName_injective : Function.Injective quotedName := by
  intro x y h
  have hread := congrArg lexemes h
  have hx : lexemes (quotedName x) = [.name x] := lexemes_text (p := .name x) trivial 0
  have hy : lexemes (quotedName y) = [.name y] := lexemes_text (p := .name y) trivial 0
  rw [hx, hy] at hread
  simpa using hread

theorem quotedText_injective : Function.Injective quotedText := by
  intro x y h
  have hread := congrArg lexemes h
  have hx : lexemes (quotedText x) = [.text x] := lexemes_text (p := .literal x) trivial 0
  have hy : lexemes (quotedText y) = [.text y] := lexemes_text (p := .literal y) trivial 0
  rw [hx, hy] at hread
  simpa using hread

/-- What is quoted stays quoted: the tokens of every statement that are quotations are the names and texts of its
input, each whole and in its place, and nothing in the text is read by other rules. A renaming of the columns and
other tables, comments and text defaults change the tokens inside their quotations only. -/
theorem quotations_stay_whole :
    (∀ (schema : String) (d : Draft),
      (d.statements schema).map (fun s => (lexemes s.text).filter Lexeme.isQuotation) = d.quotations schema ∧
        ∀ s ∈ d.statements schema, Lexeme.broken ∉ lexemes s.text) ∧
      (∀ (f : String → String), Function.Injective f → ∀ (schema schema' : String) (d d' : Draft), d.Alike f d' →
        (d'.statements schema').map (fun s => (lexemes s.text).map Lexeme.shape) =
          (d.statements schema).map fun s => (lexemes s.text).map Lexeme.shape) ∧
      Function.Injective quotedName ∧ Function.Injective quotedText := by
  refine ⟨fun schema d => ?_, fun f hf schema schema' d d' h => ?_, quotedName_injective, quotedText_injective⟩
  · have hlexemes : ∀ s ∈ d.statements schema, (lexemes s.text).filter Lexeme.isQuotation = s.quotations ∧
        Lexeme.broken ∉ lexemes s.text := by
      intro s hs
      have hlegible := legible_statements schema d s hs
      rw [Statement.text, lexemes_textFrom hlegible]
      exact filter_lexemesFrom hlegible.sound 1
    refine ⟨?_, fun s hs => (hlexemes s hs).2⟩
    rw [← quotations_statements]
    exact List.map_congr_left fun s hs => (hlexemes s hs).1
  · -- the other tokens are those of the form, which is the same for both
    have hshape : ∀ (schema : String) (d : Draft),
        (d.statements schema).map (fun s => (lexemes s.text).map Lexeme.shape) =
          ((d.statements schema).map Statement.form).map fun s => (s.lexemesFrom 1).map Lexeme.shape := by
      intro schema d
      rw [List.map_map]
      refine List.map_congr_left fun s hs => ?_
      rw [Statement.text, lexemes_textFrom (legible_statements schema d s hs)]
      exact (map_shape_lexemesFrom s 1).symm
    rw [hshape, hshape, form_statements hf schema schema' h]

/-- A quote at the end of every name leaves the other tokens as they are. -/
theorem quotes_in_names_stay_whole :
    ((Draft.count ⟨"a\"", none, false, ["b\""], []⟩ [.leaf .and "b\"" .eq (.text "c")]).statements "public").map
        (fun s => (lexemes s.text).map Lexeme.shape) =
      ((Draft.count ⟨"a", none, false, ["b"], []⟩ [.leaf .and "b" .eq (.text "c")]).statements "public").map
        fun s => (lexemes s.text).map Lexeme.shape := by
  obtain ⟨-, hrenamed, -, -⟩ := quotations_stay_whole
  have hinjective : Function.Injective fun x => x ++ "\"" := fun x y h => (String.append_left_inj _).1 h
  exact hrenamed _ hinjective "public" "public" _ _
    (.count "a\"" ⟨"a", none, false, ["b"], []⟩ [.leaf .and "b" .eq (.text "c")])

end Sql

end DataModel

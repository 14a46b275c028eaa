import DataModel.Proofs.Legible
import DataModel.Sql.Rows
import DataModel.Sql.Tables

/-!
# All statements are legible

The text of every statement on rows and on tables is read as the tokens of its pieces. A statement is legible because
its clauses are, and a clause because each of its words ends before what follows it: words start and end in blanks or
marks, and what is written for a number or a type of a column has letters, digits and marks only.
-/

namespace DataModel.Sql

variable {s s' : Statement} {w : String}

theorem legible_qualified (schema table : String) : Legible (qualified schema table) :=
  legible_name schema (legible_word (by decide) (by decide) (legible_name_last table))

theorem legible_comparison (t : TableSchema) (column : String) (op : Operator) (value : Value) :
    Legible (comparison t column op value) := by
  have hplain : Legible [.name column, .word (" " ++ op.sql ++ " "), param t column value] := by
    refine legible_name column (legible_word ?_ ?_ (legible_param t column value))
    · cases op <;> decide
    · cases op <;> decide
  have hnull : Legible [.name column, .word " IS NULL"] := legible_name column (legible_last (by decide))
  have hnotNull : Legible [.name column, .word " IS NOT NULL"] := legible_name column (legible_last (by decide))
  cases op with
  | isNull => exact hnull
  | notNull => exact hnotNull
  | eq =>
    cases hv : value.isNull with
    | true => simpa [comparison, hv] using hnull
    | false => simpa [comparison, hv] using hplain
  | ne =>
    cases hv : value.isNull with
    | true => simpa [comparison, hv] using hnotNull
    | false => simpa [comparison, hv] using hplain
  | like =>
    have hparam : Legible [.param (.text value.display) none] := legible_single ⟨none, rfl⟩
    exact legible_name column (legible_word (by decide) (by decide) hparam)
  | isIn =>
    cases hitems : operands value with
    | nil =>
      have hfalse : Legible [.word "1 = 0"] := legible_last (by decide)
      simpa [comparison, hitems] using hfalse
    | cons v vs =>
      have hlist : Legible (joined ", " ((v :: vs).map fun v => [param t column v])) :=
        legible_listed fun v _ => legible_param t column v
      have hclosed := legible_append hlist (legible_last (by decide)) (soft_word (w := ")") (by decide))
      have hamong := legible_name column (legible_word (w := " IN (") (by decide) (by decide) hclosed)
      simpa [comparison, hitems] using hamong
  | _ => exact hplain

theorem legible_chained {soFar : Option Statement} (h : ∀ s ∈ soFar, Legible s) (conj : Conjunction)
    {part : Statement} (hpart : Legible part) : Legible (chained soFar conj part) := by
  cases soFar with
  | none => exact hpart
  | some before =>
    have hjoined : Legible (.word (") " ++ conj.sql ++ " ") :: part) := by
      refine legible_word ?_ ?_ hpart
      · cases conj <;> decide
      · cases conj <;> decide
    have hsoft : Soft (.word (") " ++ conj.sql ++ " ") :: part) := by
      refine soft_word ?_
      cases conj <;> decide
    exact legible_word (by decide) (by decide) (legible_append (h before rfl) hjoined hsoft)

theorem legible_unwritten : ∀ s ∈ (none : Option Statement), Legible s :=
  nofun

mutual

theorem legible_condition? (t : TableSchema) (w : Where) : ∀ s ∈ condition? t w, Legible s := by
  intro s hs
  cases w with
  | leaf method column op value =>
    rw [condition?] at hs
    rw [← Option.some.inj hs]
    exact legible_comparison t column op value
  | group method wheres =>
    rw [condition?] at hs
    split at hs
    next inner hinner =>
      have hwheres := legible_conditions? t legible_unwritten wheres inner hinner
      have hclosed := legible_append hwheres (legible_last (by decide)) (soft_word (w := ")") (by decide))
      rw [← Option.some.inj hs]
      exact legible_word (by decide) (by decide) hclosed
    next => cases hs

theorem legible_conditions? (t : TableSchema) {soFar : Option Statement} (h : ∀ s ∈ soFar, Legible s)
    (ws : List Where) : ∀ s ∈ conditions? t soFar ws, Legible s := by
  cases ws with
  | nil =>
    rw [conditions?]
    exact h
  | cons w ws =>
    rw [conditions?]
    split
    next part hpart =>
      have hnode := legible_condition? t w part hpart
      refine legible_conditions? t (fun s hs => ?_) ws
      rw [← Option.some.inj hs]
      exact legible_chained h w.method hnode
    next => exact legible_conditions? t h ws

end

theorem legible_whereClause (t : TableSchema) (filter : List Where) :
    Legible (whereClause t filter) ∧ Soft (whereClause t filter) := by
  unfold whereClause
  split
  next s hs =>
    have hconditions := legible_conditions? t legible_unwritten filter s hs
    exact ⟨legible_word (by decide) (by decide) hconditions, soft_word (by decide)⟩
  next => exact ⟨legible_nil, soft_nil⟩

theorem legible_selected (t : TableSchema) (column : String) : Legible (selected t column) := by
  unfold selected
  split
  · exact legible_name column (legible_word (by decide) (by decide) (legible_name_last column))
  · exact legible_name_last column

theorem legible_selectList (t : TableSchema) (columns : List String) : Legible (selectList t columns) := by
  unfold selectList
  split
  · exact legible_last (by decide)
  · exact legible_listed fun c _ => legible_selected t c

theorem legible_orderClause (t : TableSchema) (orders : List Order) :
    Legible (orderClause t orders) ∧ Soft (orderClause t orders) := by
  have horder : ∀ o ∈ orders, Legible [.name o.column, .word (" " ++ o.direction.sql)] := by
    intro o _
    refine legible_name o.column (legible_last ?_)
    cases o.direction <;> decide
  have horders : Legible (.word " ORDER BY " ::
      joined ", " (orders.map fun o => [.name o.column, .word (" " ++ o.direction.sql)])) :=
    legible_word (by decide) (by decide) (legible_listed horder)
  unfold orderClause
  split
  next key _ =>
    split
    · exact ⟨legible_nil, soft_nil⟩
    · exact ⟨legible_word (by decide) (by decide) (legible_name_last key), soft_word (by decide)⟩
  · exact ⟨legible_nil, soft_nil⟩
  · exact ⟨horders, soft_word (by decide)⟩

theorem legible_numberClause {keyword : String} (hplain : isPlainWord keyword = true)
    (hstart : startsApart keyword = true) (n : Option UInt64) :
    Legible (numberClause keyword n) ∧ Soft (numberClause keyword n) := by
  cases n with
  | none => exact ⟨legible_nil, soft_nil⟩
  | some n => exact ⟨legible_last (isPlainWord_append hplain isPlain_natText), soft_word (startsApart_append hstart _)⟩

theorem legible_limit (n : Option UInt64) : Legible (numberClause " LIMIT " n) ∧ Soft (numberClause " LIMIT " n) :=
  legible_numberClause (by decide) (by decide) n

theorem legible_offset (n : Option UInt64) :
    Legible (numberClause " OFFSET " n) ∧ Soft (numberClause " OFFSET " n) :=
  legible_numberClause (by decide) (by decide) n

theorem legible_select (schema : String) (t : TableSchema) (s : Selection) : Legible (select schema t s) := by
  obtain ⟨hwhere, hwhereSoft⟩ := legible_whereClause t s.filter
  obtain ⟨horder, horderSoft⟩ := legible_orderClause t s.orders
  obtain ⟨hlimit, hlimitSoft⟩ := legible_limit s.limit
  obtain ⟨hoffset, hoffsetSoft⟩ := legible_offset s.offset
  have hfiltered := legible_append (legible_qualified schema t.name) hwhere hwhereSoft
  have hordered := legible_append hfiltered horder horderSoft
  have hlimited := legible_append hordered hlimit hlimitSoft
  have hwindow := legible_append hlimited hoffset hoffsetSoft
  have hfrom := legible_word (w := " FROM ") (by decide) (by decide) hwindow
  exact legible_word (by decide) (by decide)
    (legible_append (legible_selectList t s.columns) hfrom (soft_word (by decide)))

/-- A keyword, a table and a filter. -/
theorem legible_filtered {keyword : String} (hplain : isPlainWord keyword = true) (hend : endsApart keyword = true)
    (schema : String) (t : TableSchema) (filter : List Where) :
    Legible (.word keyword :: (qualified schema t.name ++ whereClause t filter)) := by
  obtain ⟨hwhere, hsoft⟩ := legible_whereClause t filter
  exact legible_word hplain hend (legible_append (legible_qualified schema t.name) hwhere hsoft)

theorem legible_count (schema : String) (t : TableSchema) (filter : List Where) : Legible (count schema t filter) :=
  legible_filtered (by decide) (by decide) schema t filter

theorem legible_delete (schema : String) (t : TableSchema) (filter : List Where) : Legible (delete schema t filter) :=
  legible_filtered (by decide) (by decide) schema t filter

theorem legible_update (schema : String) (t : TableSchema) (filter : List Where) (values : Record) :
    Legible (update schema t filter values) := by
  obtain ⟨hwhere, hsoft⟩ := legible_whereClause t filter
  have hset : ∀ e ∈ values, Legible [.name e.1, .word " = ", param t e.1 e.2] := by
    intro e _
    exact legible_name e.1 (legible_word (by decide) (by decide) (legible_param t e.1 e.2))
  have hfiltered := legible_append (legible_listed hset) hwhere hsoft
  have hsets := legible_word (w := " SET ") (by decide) (by decide) hfiltered
  exact legible_word (by decide) (by decide)
    (legible_append (legible_qualified schema t.name) hsets (soft_word (by decide)))

theorem legible_returning (t : TableSchema) : Legible (returning t) ∧ Soft (returning t) := by
  unfold returning
  split
  next key _ => exact ⟨legible_word (by decide) (by decide) (legible_name_last key), soft_word (by decide)⟩
  next => exact ⟨legible_nil, soft_nil⟩

theorem legible_names (columns : List String) : Legible (names columns) :=
  legible_listed fun c _ => legible_name_last c

theorem insert_nil (schema : String) (t : TableSchema) : insert schema t [] =
    (.word "INSERT INTO " :: qualified schema t.name) ++ .word " DEFAULT VALUES" :: returning t :=
  rfl

theorem insert_cons (schema : String) (t : TableSchema) (e : String × Value) (row : Record) :
    insert schema t (e :: row) = (.word "INSERT INTO " :: qualified schema t.name) ++ .word " (" ::
      (names (Assoc.keys (e :: row)) ++ .word ") VALUES (" ::
        (joined ", " ((e :: row).map fun e => [param t e.1 e.2]) ++ .word ")" :: returning t)) :=
  rfl

theorem legible_insert (schema : String) (t : TableSchema) (row : Record) : Legible (insert schema t row) := by
  obtain ⟨hreturning, hsoft⟩ := legible_returning t
  have htarget : Legible (.word "INSERT INTO " :: qualified schema t.name) :=
    legible_word (by decide) (by decide) (legible_qualified schema t.name)
  unfold insert
  split
  · have hdefault := legible_append (legible_last (w := " DEFAULT VALUES") (by decide)) hreturning hsoft
    exact legible_append htarget hdefault (soft_word (by decide))
  · have hvalues : Legible (joined ", " (row.map fun e => [param t e.1 e.2])) :=
      legible_listed fun e _ => legible_param t e.1 e.2
    have hend := legible_word (w := ")") (by decide) (by decide) hreturning
    have hrow := legible_word (w := ") VALUES (") (by decide) (by decide)
      (legible_append hvalues hend (soft_word (by decide)))
    have hcolumns := legible_word (w := " (") (by decide) (by decide)
      (legible_append (legible_names row.keys) hrow (soft_word (by decide)))
    exact legible_append htarget hcolumns (soft_word (by decide))

theorem legible_tuple (t : TableSchema) (columns : List String) (row : List Value) :
    Legible (tuple t columns row) := by
  have hvalues : Legible (joined ", " ((columns.zip row).map fun e => [param t e.1 e.2])) :=
    legible_listed fun e _ => legible_param t e.1 e.2
  exact legible_word (by decide) (by decide)
    (legible_append hvalues (legible_last (by decide)) (soft_word (by decide)))

theorem legible_insertMany (schema : String) (t : TableSchema) (columns : List String) (rows : List (List Value)) :
    Legible (insertMany schema t columns rows) := by
  have hrows : Legible (joined ", " (rows.map (tuple t columns))) :=
    legible_listed fun row _ => legible_tuple t columns row
  have hvalues := legible_word (w := ") VALUES ") (by decide) (by decide) hrows
  have hcolumns := legible_word (w := " (") (by decide) (by decide)
    (legible_append (legible_names columns) hvalues (soft_word (by decide)))
  exact legible_word (by decide) (by decide)
    (legible_append (legible_qualified schema t.name) hcolumns (soft_word (by decide)))

theorem isPlain_int64Text (n : Int64) : isPlainWord (Numeral.int64Text n) = true := by
  have hdigit : ∀ n c, c ∈ Numeral.ofNat n → Scanner.isPlain c = true := by
    intro n c hc
    exact isPlain_natText c (by rwa [Numeral.natText, String.toList_ofList])
  have htext : (Numeral.int64Text n).toList = Numeral.ofInt n.toInt := String.toList_ofList
  cases hn : n.toInt with
  | ofNat m =>
    rw [hn] at htext
    cases hm : Numeral.ofNat m with
    | nil => exact absurd hm Nat.toDigits_ne_nil
    | cons c cs =>
      have hall := hdigit m
      rw [hm, List.forall_mem_cons] at hall
      exact isPlainWord_of_cons (htext.trans hm) (Or.inl hall.1) hall.2
  | negSucc m =>
    rw [hn] at htext
    exact isPlainWord_of_cons htext (Or.inr rfl) (hdigit (m + 1))

theorem isPlain_plainText (x : Binary64) : isPlainWord x.plainText = true := by
  obtain ⟨cs, hne, hchars, htext⟩ := x.toList_plainText
  have hplain : ∀ c ∈ cs, Scanner.isPlain c = true := by
    intro c hc
    rcases hchars c hc with hc | rfl
    · exact isPlain_of_isAlphanum hc
    · rfl
  rcases htext with htext | htext
  · cases cs with
    | nil => exact absurd rfl hne
    | cons c cs =>
      rw [List.forall_mem_cons] at hplain
      exact isPlainWord_of_cons htext (Or.inl hplain.1) hplain.2
  · exact isPlainWord_of_cons htext (Or.inr rfl) hplain

theorem legible_defaultLiteral (v : Value) : Legible (defaultLiteral v) := by
  cases v with
  | null => exact legible_last (by decide)
  | bool b => cases b <;> exact legible_last (by decide)
  | int n => exact legible_last (isPlain_int64Text n)
  | float x => exact legible_last (isPlain_plainText x)
  | text s => exact legible_literal_last s
  | list items => exact legible_literal _ (legible_last (by decide))
  | map entries => exact legible_literal _ (legible_last (by decide))

/-- A type of the database is made of letters, digits, blanks and marks. -/
theorem isPlain_ddl (k : Kind) : ∀ c ∈ k.ddl.toList, Scanner.isPlain c = true := by
  have hsized : ∀ (head tail : String) (n : Nat), head.toList.all Scanner.isPlain = true →
      tail.toList.all Scanner.isPlain = true →
      ∀ c ∈ (head ++ Numeral.natText n ++ tail).toList, Scanner.isPlain c = true := by
    intro head tail n hhead htail c hc
    simp only [String.toList_append, List.mem_append] at hc
    rcases hc with (hc | hc) | hc
    · exact List.all_eq_true.1 hhead c hc
    · exact isPlain_natText c hc
    · exact List.all_eq_true.1 htail c hc
  cases k with
  | string length => exact hsized "VARCHAR(" ")" length (by decide) (by decide)
  | char length => exact hsized "CHAR(" ")" length (by decide) (by decide)
  | decimal precision scale =>
    intro c hc
    have hc' : c ∈ ("NUMERIC(" ++ Numeral.natText precision ++ ",").toList ++
        ("" ++ Numeral.natText scale ++ ")").toList := by
      simpa [Kind.ddl] using hc
    rcases List.mem_append.1 hc' with hc | hc
    · exact hsized "NUMERIC(" "," precision (by decide) (by decide) c hc
    · exact hsized "" ")" scale (by decide) (by decide) c hc
  | _ => exact List.all_eq_true.1 (by decide)

theorem isPlain_changedType (k : Kind) : ∀ c ∈ (changedType k).toList, Scanner.isPlain c = true := by
  cases k with
  | id => exact List.all_eq_true.1 (by decide)
  | _ => exact isPlain_ddl _

theorem legible_columnClause (c : ColumnDefinition) : Legible (columnClause c) := by
  have htype : Legible [.name c.name, .word (" " ++ c.kind.ddl)] :=
    legible_name c.name (legible_last (isPlainWord_append (by decide) (isPlain_ddl c.kind)))
  have hconstraints : Legible (if c.primary then [.word " PRIMARY KEY"]
        else (if c.nullable then [] else [.word " NOT NULL"]) ++ (if c.unique then [.word " UNIQUE"] else [])) ∧
      Soft (if c.primary then [.word " PRIMARY KEY"]
        else (if c.nullable then [] else [.word " NOT NULL"]) ++ (if c.unique then [.word " UNIQUE"] else [])) := by
    have hword : ∀ w, isPlainWord w = true → startsApart w = true → Legible [.word w] ∧ Soft [.word w] :=
      fun w hplain hstart => ⟨legible_last hplain, soft_word hstart⟩
    have hkey := hword " PRIMARY KEY" (by decide) (by decide)
    have hnotNull := hword " NOT NULL" (by decide) (by decide)
    have hunique := hword " UNIQUE" (by decide) (by decide)
    cases c.primary <;> cases c.nullable <;> cases c.unique
    · exact ⟨legible_append hnotNull.1 legible_nil soft_nil, hnotNull.2⟩
    · exact ⟨legible_append hnotNull.1 hunique.1 hunique.2, hnotNull.2⟩
    · exact ⟨legible_nil, soft_nil⟩
    · exact hunique
    all_goals exact hkey
  have hcolumn := legible_append htype hconstraints.1 hconstraints.2
  cases hdefault : c.default with
  | none =>
    simp only [columnClause, hdefault]
    exact legible_append hcolumn legible_nil soft_nil
  | some v =>
    have hvalue := legible_word (w := " DEFAULT ") (by decide) (by decide) (legible_defaultLiteral v)
    simp only [columnClause, hdefault]
    exact legible_append hcolumn hvalue (soft_word (by decide))

theorem legible_createIndex (schema table column : String) : Legible (createIndex schema table column) := by
  have hcolumn : Legible [.word " (", .name column, .word ")"] :=
    legible_word (by decide) (by decide) (legible_name column (legible_last (by decide)))
  have htable := legible_append (legible_qualified schema table) hcolumn (soft_word (by decide))
  have hindex := legible_name (indexName table column) (legible_word (w := " ON ") (by decide) (by decide) htable)
  exact legible_word (by decide) (by decide) hindex

theorem legible_createTable (schema : String) (t : TableDefinition) : ∀ s ∈ createTable schema t, Legible s := by
  intro s hs
  simp only [createTable, List.append_assoc, List.mem_append, List.mem_singleton, List.mem_map] at hs
  rcases hs with rfl | ⟨c, -, rfl⟩ | hs
  · have hcolumns : Legible (joined ", " (t.columns.map columnClause)) :=
      legible_listed fun c _ => legible_columnClause c
    have hclosed := legible_append hcolumns (legible_last (w := ")") (by decide)) (soft_word (by decide))
    have hopened := legible_word (w := " (") (by decide) (by decide) hclosed
    exact legible_word (by decide) (by decide)
      (legible_append (legible_qualified schema t.name) hopened (soft_word (by decide)))
  · exact legible_createIndex schema t.name c.name
  · cases hcomment : t.comment with
    | none =>
      rw [hcomment] at hs
      exact absurd hs List.not_mem_nil
    | some comment =>
      rw [hcomment] at hs
      rw [List.mem_singleton.1 hs]
      have htext := legible_word (w := " IS ") (by decide) (by decide) (legible_literal_last comment)
      exact legible_word (by decide) (by decide)
        (legible_append (legible_qualified schema t.name) htext (soft_word (by decide)))

theorem legible_addColumn (schema table : String) (c : ColumnDefinition) :
    ∀ s ∈ addColumn schema table c, Legible s := by
  intro s hs
  rcases List.mem_cons.1 hs with rfl | hs
  · have hcolumn := legible_word (w := " ADD COLUMN IF NOT EXISTS ") (by decide) (by decide) (legible_columnClause c)
    exact legible_word (by decide) (by decide)
      (legible_append (legible_qualified schema table) hcolumn (soft_word (by decide)))
  · split at hs
    · rw [List.mem_singleton.1 hs]
      exact legible_createIndex schema table c.name
    · exact absurd hs List.not_mem_nil

theorem legible_changeColumn (schema table : String) (c : ColumnDefinition) :
    ∀ s ∈ changeColumn schema table c, Legible s := by
  have hcolumn :
      Legible (.word "ALTER TABLE " :: (qualified schema table ++ [.word " ALTER COLUMN ", .name c.name])) := by
    have hname := legible_word (w := " ALTER COLUMN ") (by decide) (by decide) (legible_name_last c.name)
    exact legible_word (by decide) (by decide)
      (legible_append (legible_qualified schema table) hname (soft_word (by decide)))
  have htype : isPlainWord (" TYPE " ++ changedType c.kind) = true :=
    isPlainWord_append (by decide) (isPlain_changedType c.kind)
  have hstart : startsApart (" TYPE " ++ changedType c.kind) = true := startsApart_append (by decide) _
  intro s hs
  simp only [changeColumn, List.mem_cons, List.not_mem_nil, or_false] at hs
  rcases hs with rfl | rfl
  · cases c.kind.maxLength with
    | some _ => exact legible_append hcolumn (legible_last htype) (soft_word hstart)
    | none =>
      have hcast : Legible [.name c.name, .word ("::" ++ changedType c.kind)] :=
        legible_name c.name (legible_last (isPlainWord_append (by decide) (isPlain_changedType c.kind)))
      have husing : isPlainWord (" TYPE " ++ changedType c.kind ++ " USING ") = true :=
        isPlainWord_append htype (List.all_eq_true.1 (by decide))
      have hchange := legible_word husing (endsApart_append _ (by decide)) hcast
      exact legible_append hcolumn hchange (soft_word (startsApart_append hstart _))
  · have hnull : Legible [.word (if c.nullable then " DROP NOT NULL" else " SET NOT NULL")] ∧
        Soft [.word (if c.nullable then " DROP NOT NULL" else " SET NOT NULL")] := by
      cases c.nullable
      · exact ⟨legible_last (by decide), soft_word (by decide)⟩
      · exact ⟨legible_last (by decide), soft_word (by decide)⟩
    exact legible_append hcolumn hnull.1 hnull.2

theorem legible_alterTable (schema table : String) (d : TableDiff) : ∀ s ∈ alterTable schema table d, Legible s := by
  intro s hs
  rcases List.mem_append.1 hs with hs | hs
  · obtain ⟨c, -, hc⟩ := List.mem_flatMap.1 hs
    exact legible_addColumn schema table c s hc
  · obtain ⟨c, -, hc⟩ := List.mem_flatMap.1 hs
    exact legible_changeColumn schema table c s hc

theorem legible_dropTable (schema table : String) : Legible (dropTable schema table) :=
  legible_word (by decide) (by decide) (legible_qualified schema table)

end DataModel.Sql

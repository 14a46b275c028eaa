import DataModel.Proofs.Numeral
import DataModel.Proofs.Record
import DataModel.Sql.Condition

/-!
# Tokens of SQL text

SQL text is read as tokens: names between double quotes, in which a quote is written twice, numbered
parameters, parentheses, commas, and words for everything else. A blank ends a word and has no meaning of its
own. What stands between quotes is never read as anything but a name.
-/

namespace DataModel.Sql

/-- A token of SQL text. -/
inductive Token where
  | name (s : String)
  | word (s : String)
  | param (number : Nat)
  | opening
  | closing
  | comma
  /-- A name without an end. -/
  | broken
deriving DecidableEq, Repr

/-- What has been read of a token. Characters stand in reverse order. -/
inductive Started where
  | nothing
  | word (read : List Char)
  | name (read : List Char)
  /-- A quote in a name: its end, or the first of two. -/
  | quote (read : List Char)
  | param (number : Nat)
deriving DecidableEq, Repr

/-- What a character begins between two tokens. -/
def begun (c : Char) : List Token × Started :=
  if c = ' ' then ([], .nothing)
  else if c = '(' then ([.opening], .nothing)
  else if c = ')' then ([.closing], .nothing)
  else if c = ',' then ([.comma], .nothing)
  else if c = '"' then ([], .name [])
  else if c = '$' then ([], .param 0)
  else ([], .word [c])

/-- Whether a character is no part of a word. -/
def breaksWord (c : Char) : Bool :=
  c = ' ' || c = '(' || c = ')' || c = ',' || c = '"' || c = '$'

namespace Started

/-- The token that has been read when nothing follows. -/
def ended : Started → List Token
  | nothing => []
  | word read => [.word (String.ofList read.reverse)]
  | name _ => [.broken]
  | quote read => [.name (String.ofList read.reverse)]
  | param number => [.param number]

/-- Whether a name has begun that has not ended. -/
def inName : Started → Bool
  | name _ => true
  | nothing | word _ | quote _ | param _ => false

/-- Read one more character: the tokens that are complete, and what has been read of the next one. -/
def next (s : Started) (c : Char) : List Token × Started :=
  match s with
  | nothing => begun c
  | word read => if breaksWord c then (s.ended ++ (begun c).1, (begun c).2) else ([], word (c :: read))
  | name read => if c = '"' then ([], quote read) else ([], name (c :: read))
  | quote read => if c = '"' then ([], name (c :: read)) else (s.ended ++ (begun c).1, (begun c).2)
  | param number =>
    match Numeral.digit? c with
    | some d => ([], param (10 * number + d))
    | none => (s.ended ++ (begun c).1, (begun c).2)

end Started

/-- The tokens of a text of which something has been read already. -/
def tokensFrom : Started → List Char → List Token
  | s, [] => s.ended
  | s, c :: cs => (s.next c).1 ++ tokensFrom (s.next c).2 cs

/-- The tokens of a text. -/
def tokens (text : String) : List Token :=
  tokensFrom .nothing text.toList

/-- What has been read of a token at the end of a text. -/
def after (s : Started) (cs : List Char) : Started :=
  cs.foldl (fun s c => (s.next c).2) s

/-- What has been read ends before a text. -/
def Splits (s : Started) (rest : List Char) : Prop :=
  tokensFrom s rest = s.ended ++ tokensFrom .nothing rest

/-- A text is followed by its own tokens and those of the rest, when its last token ends with it. -/
theorem tokensFrom_append {s : Started} (cs : List Char) {rest : List Char} (h : Splits (after s cs) rest) :
    tokensFrom s (cs ++ rest) = tokensFrom s cs ++ tokensFrom .nothing rest := by
  induction cs generalizing s with
  | nil => exact h
  | cons c cs ih =>
    have hrest := @ih (s.next c).2 h
    rw [List.cons_append, tokensFrom, tokensFrom, hrest, List.append_assoc]

/-- Whether a word, a parameter or a name ends before a text. -/
def Stops (rest : List Char) : Prop :=
  ∀ c ∈ rest.head?, c = ' ' ∨ c = ')' ∨ c = ','

theorem stops_nil : Stops [] := by
  intro c hc
  cases hc

theorem stops_cons {c : Char} {rest : List Char} (h : c = ' ' ∨ c = ')' ∨ c = ',') : Stops (c :: rest) := by
  intro d hd
  rw [← Option.some.inj hd]
  exact h

theorem splits_of_stops {s : Started} {rest : List Char} (hs : s.inName = false) (h : Stops rest) :
    Splits s rest := by
  cases rest with
  | nil => simp [Splits, tokensFrom, Started.ended]
  | cons c rest =>
    have hc := h c rfl
    have hb : breaksWord c = true := by rcases hc with rfl | rfl | rfl <;> rfl
    have hq : c ≠ '"' := by rcases hc with rfl | rfl | rfl <;> decide
    have hd : Numeral.digit? c = none := by rcases hc with rfl | rfl | rfl <;> rfl
    cases s with
    | nothing => rfl
    | word read => simp [Splits, tokensFrom, Started.next, hb]
    | name read => cases hs
    | quote read => simp [Splits, tokensFrom, Started.next, hq]
    | param number => simp [Splits, tokensFrom, Started.next, hd]

/-- A name ends before everything but a quote. -/
theorem splits_quote (read : List Char) {rest : List Char} (h : rest.head? ≠ some '"') :
    Splits (.quote read) rest := by
  cases rest with
  | nil => simp [Splits, tokensFrom, Started.ended]
  | cons c rest =>
    have hc : c ≠ '"' := fun hc => h (by rw [hc]; rfl)
    simp [Splits, tokensFrom, Started.next, hc]

/-- The number of a parameter ends before everything but a digit. -/
theorem splits_param (number : Nat) {rest : List Char} (h : ∀ c ∈ rest.head?, Numeral.digit? c = none) :
    Splits (.param number) rest := by
  cases rest with
  | nil => simp [Splits, tokensFrom, Started.ended]
  | cons c rest => simp [Splits, tokensFrom, Started.next, h c rfl]

theorem after_doubling (cs read : List Char) :
    after (.name read) (Segment.doubling '"' cs) = .name (cs.reverse ++ read) ∧
      tokensFrom (.name read) (Segment.doubling '"' cs ++ ['"']) =
        [.name (String.ofList (read.reverse ++ cs))] := by
  induction cs generalizing read with
  | nil => simp [Segment.doubling, after, tokensFrom, Started.next, Started.ended]
  | cons c cs ih =>
    have hstep := ih (c :: read)
    by_cases hc : c = '"'
    · -- a quote is written twice and read as one
      subst hc
      simpa [Segment.doubling, after, tokensFrom, Started.next] using hstep
    · simpa [Segment.doubling, after, tokensFrom, Started.next, hc] using hstep

/-- A quoted name is read as the name, whatever stands in it. -/
theorem tokensFrom_quotedName (s : String) (rest : List Char) (h : rest.head? ≠ some '"') :
    tokensFrom .nothing ((quotedName s).toList ++ rest) = .name s :: tokensFrom .nothing rest := by
  obtain ⟨hafter, htokens⟩ := after_doubling s.toList []
  have hend : after .nothing (quotedName s).toList = .quote s.toList.reverse := by
    have hstart : after .nothing (quotedName s).toList =
        after (after (.name []) (Segment.doubling '"' s.toList)) ['"'] := by
      simp [quotedName, after, Started.next, begun]
    rw [hstart, hafter]
    simp [after, Started.next]
  have hread : tokensFrom .nothing (quotedName s).toList = [.name s] := by
    simpa [quotedName, tokensFrom, Started.next, begun] using htokens
  rw [tokensFrom_append _ (hend ▸ splits_quote _ h), hread]
  rfl

theorem after_digits {cs : List Char} (number : Nat) (h : ∀ c ∈ cs, c.isDigit = true) :
    after (.param number) cs = .param (Nat.ofDigitChars 10 cs number) ∧
      tokensFrom (.param number) cs = [.param (Nat.ofDigitChars 10 cs number)] := by
  induction cs generalizing number with
  | nil => exact ⟨rfl, rfl⟩
  | cons c cs ih =>
    rw [List.forall_mem_cons] at h
    have hstep := ih (10 * number + (c.toNat - '0'.toNat)) h.2
    have hnext : (Started.param number).next c = ([], .param (10 * number + (c.toNat - '0'.toNat))) := by
      rw [Started.next, Numeral.digit?_of_isDigit h.1]
    simpa [after, tokensFrom, hnext, Nat.ofDigitChars_cons] using hstep

/-- The words of a cast. -/
def castTokens (cast : Option Kind) : List Token :=
  match cast with
  | none => []
  | some k => tokens ("::" ++ k.cast)

/-- A parameter is read as its number and its cast. -/
theorem tokensFrom_placeholder (number : Nat) (kind : Option Kind) {rest : List Char} (h : Stops rest) :
    tokensFrom .nothing ((placeholder number (kind.map Kind.cast)).toList ++ rest) =
      .param number :: castTokens kind ++ tokensFrom .nothing rest := by
  have hdigits : ∀ c ∈ Numeral.ofNat number, c.isDigit = true := by
    intro c hc
    exact Nat.isDigit_of_mem_toDigits (by decide) (by decide) hc
  obtain ⟨hafter, htokens⟩ := after_digits 0 hdigits
  have hvalue : Nat.ofDigitChars 10 (Numeral.ofNat number) 0 = number := by simp [Numeral.ofNat]
  rw [hvalue] at hafter htokens
  have hnumber : ∀ rest, Splits (.param number) rest →
      tokensFrom .nothing ('$' :: (Numeral.ofNat number ++ rest)) =
        .param number :: tokensFrom .nothing rest := by
    intro rest hrest
    have hstart : tokensFrom .nothing ('$' :: (Numeral.ofNat number ++ rest)) =
        tokensFrom (.param 0) (Numeral.ofNat number ++ rest) := by
      rfl
    rw [hstart, tokensFrom_append _ (hafter ▸ hrest), htokens]
    rfl
  cases kind with
  | none =>
    have htext := hnumber rest (splits_of_stops rfl h)
    simpa [placeholder, Numeral.natText, castTokens] using htext
  | some k =>
    have htext := hnumber (("::" ++ k.cast).toList ++ rest) (splits_param _ (by simp [Numeral.digit?]))
    have hcast : tokensFrom .nothing (("::" ++ k.cast).toList ++ rest) =
        castTokens (some k) ++ tokensFrom .nothing rest := by
      refine tokensFrom_append _ (splits_of_stops ?_ h)
      cases k <;> simp only [Kind.cast] <;> rfl
    rw [hcast] at htext
    simpa [placeholder, Numeral.natText] using htext

/-- The tokens of a list of parameters with commas between them. -/
def listTokens (kind : Option Kind) : Nat → List Value → List Token
  | _, [] => []
  | n, [_] => .param n :: castTokens kind
  | n, _ :: v :: vs => (.param n :: castTokens kind) ++ .comma :: listTokens kind (n + 1) (v :: vs)

/-- The tokens of a comparison whose first parameter has the given number. -/
def comparisonTokens (t : TableSchema) (n : Nat) (column : String) (op : Operator) (value : Value) :
    List Token :=
  let plain := .name column :: .word op.sql :: .param n :: castTokens (t.kind? column)
  let null := [.name column, .word "IS", .word "NULL"]
  let notNull := [.name column, .word "IS", .word "NOT", .word "NULL"]
  match op with
  | .isNull => null
  | .notNull => notNull
  | .eq => if value.isNull then null else plain
  | .ne => if value.isNull then notNull else plain
  | .like => [.name column, .word "::text", .word "LIKE", .param n]
  | .isIn =>
    match operands value with
    | [] => [.word "1", .word "=", .word "0"]
    | items => .name column :: .word "IN" :: .opening :: (listTokens (t.kind? column) n items ++ [.closing])
  | _ => plain

theorem textFrom_append (n : Nat) (s s' : Statement) :
    (s ++ s').textFrom n = s.textFrom n ++ s'.textFrom (n + s.params.length) := by
  induction s generalizing n with
  | nil => simp [Statement.textFrom, Statement.params]
  | cons p ps ih =>
    cases p with
    | word w => simp [Statement.textFrom, Statement.params, ih, String.append_assoc]
    | name w => simp [Statement.textFrom, Statement.params, ih, String.append_assoc]
    | literal w => simp [Statement.textFrom, Statement.params, ih, String.append_assoc]
    | param v cast =>
      have hn : n + 1 + (Statement.params ps).length = n + ((Statement.params ps).length + 1) := by omega
      simp [Statement.textFrom, Statement.params, ih, String.append_assoc, hn]

theorem params_append (s s' : Statement) : (s ++ s').params = s.params ++ s'.params := by
  induction s with
  | nil => rfl
  | cons p ps ih => cases p <;> simp [Statement.params, ih]

theorem tokensFrom_joined (t : TableSchema) (column : String) (n : Nat) {items : List Value}
    {rest : List Char} (h : Stops rest) (hne : items ≠ []) :
    tokensFrom .nothing
        (((joined ", " (items.map fun v => [param t column v])).textFrom n).toList ++ rest) =
      listTokens (t.kind? column) n items ++ tokensFrom .nothing rest := by
  have hcomma : ∀ cs, tokensFrom .nothing (", ".toList ++ cs) = .comma :: tokensFrom .nothing cs := by
    intro cs
    rfl
  induction items generalizing n with
  | nil => exact absurd rfl hne
  | cons v vs ih =>
    cases vs with
    | nil =>
      have hparam := tokensFrom_placeholder n (t.kind? column) h
      simpa [joined, param, listTokens, Statement.textFrom] using hparam
    | cons w vs =>
      have hitems := ih (n + 1) (List.cons_ne_nil w vs)
      have hstops : Stops (", ".toList ++
          (((joined ", " ((w :: vs).map fun v => [param t column v])).textFrom (n + 1)).toList ++ rest)) :=
        stops_cons (Or.inr (Or.inr rfl))
      have hparam := tokensFrom_placeholder n (t.kind? column) hstops
      rw [hcomma, hitems] at hparam
      simpa [joined, param, listTokens, Statement.textFrom] using hparam

/-- A comparison with a parameter, by an operator that is one word. -/
theorem tokensFrom_plain {t : TableSchema} {n : Nat} {column : String} {op : Operator} {value : Value}
    {rest : List Char} (h : Stops rest)
    (hop : ∀ cs, tokensFrom .nothing ((" " ++ op.sql ++ " ").toList ++ cs) = .word op.sql :: tokensFrom .nothing cs) :
    tokensFrom .nothing ((Statement.textFrom n
        [.name column, .word (" " ++ op.sql ++ " "), param t column value]).toList ++ rest) =
      (.name column :: .word op.sql :: .param n :: castTokens (t.kind? column)) ++ tokensFrom .nothing rest := by
  have hparam := tokensFrom_placeholder n (t.kind? column) h
  have hoperator := hop ((placeholder n ((t.kind? column).map Kind.cast)).toList ++ rest)
  have hname := tokensFrom_quotedName column ((" " ++ op.sql ++ " ").toList ++
    ((placeholder n ((t.kind? column).map Kind.cast)).toList ++ rest)) (by simp)
  rw [hoperator, hparam] at hname
  simpa [Statement.textFrom, param] using hname

/-- A comparison without a parameter. -/
theorem tokensFrom_nullCheck (n : Nat) (column w : String) (ts : List Token) {rest : List Char}
    (hw : tokens w = ts) (hhead : w.toList.head? = some ' ') (hafter : (after .nothing w.toList).inName = false)
    (h : Stops rest) :
    tokensFrom .nothing ((Statement.textFrom n [.name column, .word w]).toList ++ rest) =
      .name column :: (ts ++ tokensFrom .nothing rest) := by
  have hname := tokensFrom_quotedName column (w.toList ++ rest) (by simp [hhead])
  rw [tokensFrom_append _ (splits_of_stops hafter h), ← tokens, hw] at hname
  simpa [Statement.textFrom] using hname

/-- A comparison with a list of parameters. -/
theorem tokensFrom_isIn (t : TableSchema) (n : Nat) (column : String) {items : List Value} (rest : List Char)
    (hne : items ≠ []) :
    tokensFrom .nothing ((Statement.textFrom n ([.name column, .word " IN ("] ++
        joined ", " (items.map fun v => [param t column v]) ++ [.word ")"])).toList ++ rest) =
      .name column :: .word "IN" :: .opening :: (listTokens (t.kind? column) n items ++
        .closing :: tokensFrom .nothing rest) := by
  have hopening : ∀ cs, tokensFrom .nothing (" IN (".toList ++ cs) =
      .word "IN" :: .opening :: tokensFrom .nothing cs := by
    intro cs
    rfl
  have hclosing : tokensFrom .nothing (")".toList ++ rest) = .closing :: tokensFrom .nothing rest := rfl
  have hstops : Stops (")".toList ++ rest) := stops_cons (Or.inr (Or.inl rfl))
  have hitems := tokensFrom_joined t column n hstops hne
  have hname := tokensFrom_quotedName column (" IN (".toList ++
    (((joined ", " (items.map fun v => [param t column v])).textFrom n).toList ++ (")".toList ++ rest))) (by simp)
  rw [hopening, hitems, hclosing] at hname
  simpa [Statement.textFrom, textFrom_append] using hname

/-- A comparison is read as its tokens. -/
theorem tokensFrom_comparison (t : TableSchema) (n : Nat) (column : String) (op : Operator) (value : Value)
    {rest : List Char} (h : Stops rest) :
    tokensFrom .nothing (((comparison t column op value).textFrom n).toList ++ rest) =
      comparisonTokens t n column op value ++ tokensFrom .nothing rest := by
  have hnull := tokensFrom_nullCheck n column " IS NULL" [.word "IS", .word "NULL"] rfl rfl rfl h
  have hnotNull := tokensFrom_nullCheck n column " IS NOT NULL" [.word "IS", .word "NOT", .word "NULL"]
    rfl rfl rfl h
  cases op with
  | isNull => exact hnull
  | notNull => exact hnotNull
  | eq =>
    cases hv : value.isNull with
    | true => simpa [comparison, comparisonTokens, hv] using hnull
    | false => simpa [comparison, comparisonTokens, hv] using tokensFrom_plain h fun _ => rfl
  | ne =>
    cases hv : value.isNull with
    | true => simpa [comparison, comparisonTokens, hv] using hnotNull
    | false => simpa [comparison, comparisonTokens, hv] using tokensFrom_plain h fun _ => rfl
  | gt => exact tokensFrom_plain h fun _ => rfl
  | ge => exact tokensFrom_plain h fun _ => rfl
  | lt => exact tokensFrom_plain h fun _ => rfl
  | le => exact tokensFrom_plain h fun _ => rfl
  | like =>
    have hparam : tokensFrom .nothing ((placeholder n none).toList ++ rest) =
        .param n :: tokensFrom .nothing rest :=
      tokensFrom_placeholder n none h
    have hword : ∀ cs, tokensFrom .nothing ("::text LIKE ".toList ++ cs) =
        .word "::text" :: .word "LIKE" :: tokensFrom .nothing cs := by
      intro cs
      rfl
    have hname := tokensFrom_quotedName column
      ("::text LIKE ".toList ++ ((placeholder n none).toList ++ rest)) (by simp)
    rw [hword, hparam] at hname
    simpa [comparison, comparisonTokens, Statement.textFrom, Operator.sql] using hname
  | isIn =>
    cases hitems : operands value with
    | nil =>
      have hfalse : tokensFrom .nothing ("1 = 0".toList ++ rest) =
          .word "1" :: .word "=" :: .word "0" :: tokensFrom .nothing rest :=
        tokensFrom_append "1 = 0".toList (splits_of_stops rfl h)
      simpa [comparison, comparisonTokens, hitems, Statement.textFrom] using hfalse
    | cons v vs =>
      have hlist := tokensFrom_isIn t n column rest (List.cons_ne_nil v vs)
      simpa [comparison, comparisonTokens, hitems] using hlist

/-- What is read of a text wherever it stands is read of the text alone. -/
theorem tokens_eq {s : String} {ts : List Token}
    (h : ∀ rest, Stops rest → tokensFrom .nothing (s.toList ++ rest) = ts ++ tokensFrom .nothing rest) :
    tokens s = ts := by
  have hend := h [] stops_nil
  rw [tokens]
  simpa [tokensFrom, Started.ended] using hend

theorem tokens_comparison (t : TableSchema) (n : Nat) (column : String) (op : Operator) (value : Value) :
    tokens ((comparison t column op value).textFrom n) = comparisonTokens t n column op value :=
  tokens_eq fun _ h => tokensFrom_comparison t n column op value h

end DataModel.Sql

import DataModel.Proofs.Statement
import DataModel.Proofs.WhereClause

/-!
# Parameters and their placeholders

The text of a statement and the list of its parameters are put together piece by piece, and each parameter has
to be the value that its placeholder stands for. Placeholders are read off the tokens of the text
(`Sql.seats`): each has a number, the cast behind it, and the last name before it. They are numbered from one
on in the order in which they stand, and the value under each number is the one that belongs to the column the
placeholder stands at.
-/

namespace DataModel.Sql

/-- The cast that tokens begin with. -/
def cast? : List Lexeme → Option String
  | .sign "::" :: .word "double" :: .word "precision" :: _ => some "double precision"
  | .sign "::" :: .word w :: _ => some w
  | _ => none

/-- The numbers of the placeholders among tokens. -/
def numbers : List Lexeme → List Nat
  | [] => []
  | .param n :: ls => n :: numbers ls
  | _ :: ls => numbers ls

/-- A placeholder: the name it stands at, its number and its cast. -/
structure Seat where
  column : Option String
  number : Nat
  cast : Option String
deriving DecidableEq

/-- The placeholders among tokens, of which each stands at the last name before it. -/
def seats (last : Option String) : List Lexeme → List Seat
  | [] => []
  | .name c :: ls => seats (some c) ls
  | .param n :: ls => ⟨last, n, cast? ls⟩ :: seats last ls
  | _ :: ls => seats last ls

/-- A value to be handed over: the column it belongs to and the type it is cast to. -/
structure Slot where
  column : String
  value : Value
  cast : Option String

/-- A value for a column, cast to the type of the column when it is known. -/
def slot (t : TableSchema) (column : String) (value : Value) : Slot :=
  ⟨column, value, (t.kind? column).map Kind.cast⟩

/-- The values of a comparison: a pattern without a cast, the items of a list one by one, and none for a null. -/
def comparisonSlots (t : TableSchema) (c : Comparison) : List Slot :=
  match c.op with
  | .isNull | .notNull => []
  | .eq | .ne => if c.value.isNull then [] else [slot t c.column c.value]
  | .like => [⟨c.column, .text c.value.display, none⟩]
  | .isIn => (operands c.value).map (slot t c.column)
  | .gt | .ge | .lt | .le => [slot t c.column c.value]

/-- The values of a filter, comparison by comparison from left to right. -/
def filterSlots (t : TableSchema) (filter : List Where) : List Slot :=
  (Where.comparisonsOf filter).flatMap (comparisonSlots t)

/-- Placeholders for values, numbered on. -/
def seated : Nat → List Slot → List Seat
  | _, [] => []
  | n, s :: ss => ⟨some s.column, n, s.cast⟩ :: seated (n + 1) ss

theorem seated_append (n : Nat) (a b : List Slot) : seated n (a ++ b) = seated n a ++ seated (n + a.length) b := by
  induction a generalizing n with
  | nil => rfl
  | cons s a ih =>
    have hn : n + (s :: a).length = n + 1 + a.length := by
      rw [List.length_cons]
      omega
    rw [List.cons_append, seated, seated, ih, hn, List.cons_append]

section Reading

variable {s : Statement} {w : String}

/-- The placeholders of a statement, of which each stands at the last name before it. -/
def seatsFrom (last : Option String) (n : Nat) : Statement → List Seat
  | [] => []
  | .name c :: ps => seatsFrom (some c) n ps
  | .param _ cast :: ps => ⟨last, n, cast⟩ :: seatsFrom last (n + 1) ps
  | .word _ :: ps | .literal _ :: ps => seatsFrom last n ps

end Reading

/-- A statement has placeholders for the given slots, and the values of the slots as parameters. -/
structure Fills (s : Statement) (slots : List Slot) : Prop where
  seats : ∀ last n, seatsFrom last n s = seated n slots
  params : s.params = slots.map Slot.value

section Filling

variable {s s' : Statement} {a b : List Slot} {t : TableSchema}

theorem seatsFrom_append (last : Option String) (n : Nat) (s : Statement) :
    ∃ last', ∀ s', seatsFrom last n (s ++ s') = seatsFrom last n s ++ seatsFrom last' (n + s.params.length) s' := by
  induction s generalizing last n with
  | nil => exact ⟨last, fun _ => rfl⟩
  | cons p ps ih =>
    cases p with
    | word w => exact ih last n
    | name x => exact ih (some x) n
    | literal x => exact ih last n
    | param v cast =>
      obtain ⟨last', h⟩ := ih last (n + 1)
      have hn : n + 1 + (Statement.params ps).length = n + ((Statement.params ps).length + 1) := by omega
      refine ⟨last', fun s' => ?_⟩
      show ⟨last, n, cast⟩ :: seatsFrom last (n + 1) (ps ++ s') = _
      rw [h, hn]
      rfl

theorem fills_nil : Fills [] [] :=
  ⟨fun _ _ => rfl, rfl⟩

theorem fills_word (w : String) (h : Fills s a) : Fills (.word w :: s) a :=
  ⟨h.seats, h.params⟩

theorem fills_name (x : String) (h : Fills s a) : Fills (.name x :: s) a :=
  ⟨fun _ n => h.seats (some x) n, h.params⟩

theorem fills_append (h : Fills s a) (h' : Fills s' b) : Fills (s ++ s') (a ++ b) := by
  have hlength : s.params.length = a.length := by rw [h.params, List.length_map]
  constructor
  · intro last n
    obtain ⟨last', hseats⟩ := seatsFrom_append last n s
    rw [hseats, h.seats, h'.seats, seated_append, hlength]
  · rw [params_append, h.params, h'.params, List.map_append]

/-- A placeholder behind the name of its column. -/
theorem fills_param (column w : String) (value : Value) :
    Fills [.name column, .word w, param t column value] [slot t column value] :=
  ⟨fun _ _ => rfl, rfl⟩

/-- Placeholders for the items of a list. -/
theorem fills_items (column : String) (items : List Value) (n : Nat) :
    seatsFrom (some column) n (joined ", " (items.map fun v => [param t column v]) ++ [.word ")"]) =
        seated n (items.map (slot t column)) ∧
      Statement.params (joined ", " (items.map fun v => [param t column v]) ++ [.word ")"]) =
        (items.map (slot t column)).map Slot.value := by
  induction items generalizing n with
  | nil => exact ⟨rfl, rfl⟩
  | cons v vs ih =>
    obtain ⟨hseats, hparams⟩ := ih (n + 1)
    cases vs with
    | nil => exact ⟨rfl, rfl⟩
    | cons v' vs => exact ⟨congrArg (List.cons _) hseats, congrArg (List.cons v) hparams⟩

theorem fills_comparison (t : TableSchema) (c : Comparison) : Fills (c.statement t) (comparisonSlots t c) := by
  obtain ⟨column, op, value⟩ := c
  have hnone : ∀ w, Fills [.name column, .word w] [] := fun w => fills_name column (fills_word w fills_nil)
  cases op with
  | isNull => exact hnone _
  | notNull => exact hnone _
  | eq =>
    simp only [Comparison.statement, comparison, comparisonSlots]
    split
    · exact hnone _
    · exact fills_param column _ value
  | ne =>
    simp only [Comparison.statement, comparison, comparisonSlots]
    split
    · exact hnone _
    · exact fills_param column _ value
  | like => exact ⟨fun _ _ => rfl, rfl⟩
  | isIn =>
    simp only [Comparison.statement, comparison, comparisonSlots]
    cases operands value with
    | nil => exact fills_word _ fills_nil
    | cons v vs =>
      exact ⟨fun _ n => (fills_items column (v :: vs) n).1, (fills_items column (v :: vs) 0).2⟩
  | _ => exact fills_param column _ value

mutual

theorem fills_condition? (t : TableSchema) (w : Where) :
    Fills ((condition? t w).getD []) (w.comparisons.flatMap (comparisonSlots t)) := by
  cases w with
  | leaf method column op value =>
    rw [condition?, Where.comparisons, List.flatMap_singleton]
    exact fills_comparison t ⟨column, op, value⟩
  | group method wheres =>
    have hwheres := fills_conditions? t none [] fills_nil wheres
    rw [condition?, Where.comparisons]
    cases hinner : conditions? t none wheres with
    | none =>
      rw [hinner] at hwheres
      exact hwheres
    | some inner =>
      rw [hinner] at hwheres
      have hclosed := fills_append hwheres (fills_word ")" fills_nil)
      rw [List.append_nil] at hclosed
      exact fills_word "(" hclosed

/-- A filter has placeholders for the operands of its comparisons, from left to right. -/
theorem fills_conditions? (t : TableSchema) (soFar : Option Statement) (slots : List Slot)
    (h : Fills (soFar.getD []) slots) (ws : List Where) :
    Fills ((conditions? t soFar ws).getD []) (slots ++ filterSlots t ws) := by
  cases ws with
  | nil =>
    rw [conditions?, filterSlots, Where.comparisonsOf, List.flatMap_nil, List.append_nil]
    exact h
  | cons w ws =>
    have hnode := fills_condition? t w
    have hslots : filterSlots t (w :: ws) = w.comparisons.flatMap (comparisonSlots t) ++ filterSlots t ws := by
      rw [filterSlots, Where.comparisonsOf, List.flatMap_append]
      rfl
    rw [conditions?, hslots, ← List.append_assoc]
    cases hpart : condition? t w with
    | none =>
      -- a node without text has no placeholders
      have hempty : w.comparisons.flatMap (comparisonSlots t) = [] := by
        rw [hpart] at hnode
        exact List.map_eq_nil_iff.1 hnode.params.symm
      rw [hempty, List.append_nil]
      exact fills_conditions? t soFar slots h ws
    | some part =>
      rw [hpart] at hnode
      refine fills_conditions? t (some (chained soFar w.method part)) _ ?_ ws
      cases soFar with
      | none =>
        have hempty : slots = [] := List.map_eq_nil_iff.1 h.params.symm
        rw [hempty]
        exact hnode
      | some before => exact fills_word "(" (fills_append h (fills_word _ hnode))

end

end Filling

/-- An entry of a list between parentheses. -/
inductive Entry where
  | name (column : String)
  | place (number : Nat) (cast : Option String)
deriving DecidableEq

/-- The lists between parentheses among tokens, after what has been read of one. -/
def groups : Option (List Entry) → List Lexeme → List (List Entry)
  | _, [] => []
  | none, .mark '(' :: ls => groups (some []) ls
  | none, _ :: ls => groups none ls
  | some entries, .mark ')' :: ls => entries :: groups none ls
  | some entries, .name c :: ls => groups (some (entries ++ [.name c])) ls
  | some entries, .param n :: ls => groups (some (entries ++ [.place n (cast? ls)])) ls
  | some entries, _ :: ls => groups (some entries) ls

section Grouping

variable {t : TableSchema} {entries : List Entry} {rest : List Lexeme}

theorem lexemesFrom_append (s s' : Statement) (n : Nat) :
    (s ++ s').lexemesFrom n = s.lexemesFrom n ++ s'.lexemesFrom (n + s.params.length) := by
  induction s generalizing n with
  | nil => rfl
  | cons p ps ih =>
    have hwidth : n + p.width + (Statement.params ps).length = n + (Statement.params (p :: ps)).length := by
      cases p with
      | param v cast =>
        show n + 1 + (Statement.params ps).length = n + ((Statement.params ps).length + 1)
        omega
      | _ => rfl
    show p.lexemes n ++ Statement.lexemesFrom (n + p.width) (ps ++ s') = _
    rw [ih, hwidth, ← List.append_assoc]
    rfl

end Grouping

end DataModel.Sql

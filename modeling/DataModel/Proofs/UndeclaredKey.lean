import DataModel.Proofs.Paging
import DataModel.Proofs.Vocabulary

/-!
# Relations whose keys are not declared

A relation may name a key that its model, or the model it leads to, does not declare. This is found out when the
relation is loaded for the first time, whatever rows there are: the load is refused with a problem of the schema. Before
that, though, the local key has been put among the columns that a request lists, so the store is asked for it. When the
table lacks the key as well, it is the store that refuses the request, and the problem of the schema is not told.
-/

namespace DataModel

namespace Table

/-- When just one column of a list is missing, that one is reported. -/
theorem checkColumns_eq_error {t : Table} {name key : String} {columns : List String} (hkey : key ∈ columns)
    (hmissing : t.hasColumn key = false) (hothers : ∀ c ∈ columns, t.hasColumn c = true ∨ c = key) :
    t.checkColumns name columns = .error (.unknownColumn name key) := by
  induction columns with
  | nil => exact absurd hkey List.not_mem_nil
  | cons c columns ih =>
    rw [checkColumns]
    rcases hothers c List.mem_cons_self with hc | rfl
    · have hne : key ≠ c := by
        rintro rfl
        rw [hc] at hmissing
        cases hmissing
      rw [if_pos hc]
      exact ih ((List.mem_cons.1 hkey).resolve_left hne) fun d hd => hothers d (List.mem_cons_of_mem _ hd)
    · rw [if_neg (by rw [hmissing]; exact Bool.false_ne_true)]

end Table

namespace Descriptor

variable {q : Descriptor} {m : Model} {r : Relation}

/-- A request without its eager-loads. -/
def bare (q : Descriptor) : Descriptor :=
  { q with withs := [] }

/-- The columns of a request whose eager-loads are all of one relation: those that it lists, and the local key. -/
theorem mem_columnsFor_iff (hlisted : q.select ≠ []) (hloads : q.withs ≠ [])
    (hsame : ∀ load ∈ q.withs, m.relation? (relationName load) = some r) {c : String} :
    c ∈ q.columnsFor m ↔ c ∈ q.select ∨ c = r.localKey := by
  have hneeded : ∀ k, k ∈ q.neededKeys m ↔ k = r.localKey := by
    intro k
    rw [neededKeys, List.mem_filterMap]
    constructor
    · rintro ⟨load, hload, hk⟩
      rw [hsame load hload] at hk
      exact (Option.some.inj hk).symm
    · rintro rfl
      obtain ⟨load, hload⟩ := List.exists_mem_of_ne_nil _ hloads
      exact ⟨load, hload, by rw [hsame load hload]; rfl⟩
  rw [columnsFor, Model.withKeys_eq, if_neg hlisted, List.mem_append, List.mem_eraseDups, List.mem_filter, hneeded]
  by_cases hc : c ∈ q.select
  · simp [hc]
  · simp [hc]

end Descriptor

/-- The table has every column that such a request lists. -/
theorem Model.CanAsk.hasColumn_select {m : Model} {t : Table} {q : Descriptor} (h : m.CanAsk t q) :
    ∀ c ∈ q.select, t.hasColumn c = true := by
  intro c hc
  refine h.selected c ?_
  rw [Descriptor.columnsFor, Model.withKeys_eq, if_neg (List.ne_nil_of_mem hc)]
  exact List.mem_append_left _ hc

namespace Library

variable {l : Library} {m : Model} {q : Descriptor} {r : Relation} {load : String × With Descriptor}

/-- Whether a relation needs a column that is not declared: the model has no such local key, or the related model, which
is loaded, no such foreign key. -/
def NeedsUndeclared (l : Library) (m : Model) (r : Relation) : Prop :=
  m.hasColumn r.localKey = false ∨
    ∃ other, l.registry.get? r.model = some other ∧ other.hasColumn r.foreignKey = false

/-- The problem of the schema that an eager-load of such a relation has: its name is taken, or the related model is not
loaded, or a key is not declared, the local one before the foreign one. -/
def keyProblem (l : Library) (m : Model) (load : String × With Descriptor) (r : Relation) : SchemaProblem :=
  if m.hasColumn load.1 then .collision load.1 m.name
  else
    match l.registry.get? r.model with
    | none => .unknownModel m.name (Descriptor.relationName load) r.model
    | some other =>
      if m.hasColumn r.localKey then .missingColumn (Descriptor.relationName load) other.name r.foreignKey
      else .missingColumn (Descriptor.relationName load) m.name r.localKey

/-- The load of a relation with an undeclared key is refused, whatever rows there are and however related rows are
read. -/
theorem attach_eq_keyProblem {read : List Link → Reader} {chain : List Link} {rows : List Record}
    (hrelation : m.relation? (Descriptor.relationName load) = some r)
    (hchain : ⟨m.name, Descriptor.relationName load⟩ ∉ chain) (hneeds : l.NeedsUndeclared m r) :
    l.attach read chain m rows load = .error (.schema (l.keyProblem m load r)) := by
  unfold attach keyProblem
  by_cases hname : m.hasColumn load.1 = true
  · simp only [hname, if_true]
  simp only [hname, hrelation, List.contains_iff_mem, hchain, if_false]
  cases hother : l.registry.get? r.model with
  | none => rfl
  | some other =>
    by_cases hlocal : m.hasColumn r.localKey = true
    · -- the local key is there, so it is the foreign key that is not
      have hforeign : other.hasColumn r.foreignKey = false := by
        rcases hneeds with hmissing | ⟨other', hother', hmissing⟩
        · rw [hlocal] at hmissing
          cases hmissing
        · rw [Option.some.inj (hother.symm.trans hother')]
          exact hmissing
      simp only [Model.requireColumn, hlocal, hforeign, if_true]
      rfl
    · simp only [Model.requireColumn, hlocal]
      rfl

/-- Whether the store is asked for the local key of a relation, by a request that lists columns, and its table does not
have it. -/
def HidesKey (l : Library) (m : Model) (q : Descriptor) (r : Relation) : Prop :=
  q.select ≠ [] ∧ ∃ t, l.store.tables.get? m.tableName = some t ∧ t.hasColumn r.localKey = false

/-- A table with the columns of the model hides no key that is declared. -/
theorem not_hidesKey_of_hasColumn (hcovered : m.CoveredIn l.store) (hlocal : m.hasColumn r.localKey = true) :
    ¬ l.HidesKey m q r := by
  rintro ⟨-, t, ht, hmissing⟩
  obtain ⟨t', ht', hcolumns⟩ := hcovered
  obtain rfl : t = t' := Option.some.inj (ht.symm.trans ht')
  rw [hcolumns _ (Model.hasColumnIn_iff.1 hlocal)] at hmissing
  cases hmissing

section

variable {base : List Record} (hbare : l.read m q.bare = .ok base) (hloads : q.withs ≠ [])
  (hsame : ∀ load ∈ q.withs, m.relation? (Descriptor.relationName load) = some r)
include hbare hloads hsame

/-- The rows of a request are read as without its eager-loads, unless the store is asked for a key it does not have. -/
theorem exists_read (hshown : ¬ l.HidesKey m q r) : ∃ rows, l.read m q = .ok rows := by
  obtain ⟨t, ht, hcan, -⟩ := read_eq_ok_iff.1 hbare
  have hselected : ∀ c ∈ q.columnsFor m, t.hasColumn c = true := by
    intro c hc
    by_cases hlisted : q.select = []
    · rw [Descriptor.columnsFor, Model.withKeys_eq, if_pos hlisted] at hc
      exact absurd hc List.not_mem_nil
    rcases (Descriptor.mem_columnsFor_iff hlisted hloads hsame).1 hc with hc | rfl
    · exact hcan.hasColumn_select c hc
    · exact Bool.of_not_eq_false fun hmissing => hshown ⟨hlisted, t, ht, hmissing⟩
  exact ⟨_, read_eq_ok_iff.2 ⟨t, ht, ⟨hcan.select, hcan.orders, hcan.wheres, hselected, hcan.ordered,
    hcan.filtered, hcan.marked⟩, rfl⟩⟩

theorem read_eq_error (hhides : l.HidesKey m q r) :
    l.read m q = .error (.store (.unknownColumn m.tableName r.localKey)) := by
  obtain ⟨hlisted, t, ht, hmissing⟩ := hhides
  obtain ⟨t', ht', hcan, -⟩ := read_eq_ok_iff.1 hbare
  obtain rfl : t = t' := Option.some.inj (ht.symm.trans ht')
  obtain ⟨f, hf⟩ : ∃ f, m.filter q = .ok f := ⟨_, Model.filter_eq_ok_iff.2 ⟨hcan.wheres, rfl⟩⟩
  have hselection : m.selection q (q.neededKeys m) = .ok ⟨q.columnsFor m, f, q.orders, q.limit, q.offset⟩ :=
    Model.selection_eq_ok_iff.2 ⟨hcan.select, hcan.orders, f, hf, rfl⟩
  have hfilter : t.checkFilter m.tableName f = .ok () :=
    Table.checkColumns_eq_ok_iff.2 (Model.CanAsk.hasColumn_filter hcan hf)
  have hcolumns : t.checkColumns m.tableName (q.columnsFor m) = .error (.unknownColumn m.tableName r.localKey) := by
    have hasked := fun c => Descriptor.mem_columnsFor_iff hlisted hloads hsame (c := c)
    exact Table.checkColumns_eq_error ((hasked _).2 (Or.inr rfl)) hmissing fun c hc =>
      ((hasked c).1 hc).imp_left (hcan.hasColumn_select c)
  have hselect : l.store.select m.tableName ⟨q.columnsFor m, f, q.orders, q.limit, q.offset⟩ =
      .error (.unknownColumn m.tableName r.localKey) := by
    refine bind_eq_error_iff.2 (Or.inr ⟨t, table?_eq_ok_iff.2 ht, ?_⟩)
    exact bind_eq_error_iff.2 (Or.inr ⟨(), hfilter, bind_eq_error_iff.2 (Or.inl hcolumns)⟩)
  refine bind_eq_error_iff.2 (Or.inr ⟨_, hselection, ?_⟩)
  rw [hselect]
  rfl

/-- A request at any depth is refused for a relation with an undeclared key that has not been followed on the way. -/
theorem resolve_undeclared (hneeds : l.NeedsUndeclared m r) {loads : List (String × With Descriptor)}
    (hwiths : q.withs = load :: loads) {chain : List Link} (hchain : ⟨m.name, Descriptor.relationName load⟩ ∉ chain)
    (depth : Nat) :
    (¬ l.HidesKey m q r → l.resolve (depth + 1) chain m q = .error (.schema (l.keyProblem m load r))) ∧
      (l.HidesKey m q r →
        l.resolve (depth + 1) chain m q = .error (.store (.unknownColumn m.tableName r.localKey))) := by
  rw [resolve_succ]
  constructor
  · intro hshown
    obtain ⟨rows, hread⟩ := exists_read hbare hloads hsame hshown
    have hrelation : m.relation? (Descriptor.relationName load) = some r :=
      hsame load (hwiths ▸ List.mem_cons_self)
    refine bind_eq_error_iff.2 (Or.inr ⟨rows, hread, ?_⟩)
    rw [hwiths, List.foldlM_cons]
    exact bind_eq_error_iff.2 (Or.inl (attach_eq_keyProblem hrelation hchain hneeds))
  · intro hhides
    exact bind_eq_error_iff.2 (Or.inl (read_eq_error hbare hloads hsame hhides))

end

/-- A request that runs without its eager-loads, which are all of a relation with an undeclared key, is refused whatever
rows there are. It is refused with the problem of the schema, unless it lists columns and the table lacks the local key;
then the store has refused that column before. With a table that has the columns of the model this happens only for a
local key that is not declared. -/
theorem run_undeclared (l : Library) (m : Model) (q : Descriptor) {load : String × With Descriptor}
    {loads : List (String × With Descriptor)} {r : Relation} {rows : List Record} (hwiths : q.withs = load :: loads)
    (hsame : ∀ other ∈ loads, Descriptor.relationName other = Descriptor.relationName load)
    (hrelation : m.relation? (Descriptor.relationName load) = some r) (hneeds : l.NeedsUndeclared m r)
    (hbare : l.run m q.bare = .ok rows) :
    (¬ l.HidesKey m q r → l.run m q = .error (.schema (l.keyProblem m load r))) ∧
      (l.HidesKey m q r → l.run m q = .error (.store (.unknownColumn m.tableName r.localKey))) ∧
      (m.CoveredIn l.store → l.HidesKey m q r → q.select ≠ [] ∧ m.hasColumn r.localKey = false) := by
  have hread : l.read m q.bare = .ok rows := (run_of_no_loads rfl).symm.trans hbare
  have hloads : q.withs ≠ [] := hwiths ▸ List.cons_ne_nil _ _
  have hall : ∀ other ∈ q.withs, m.relation? (Descriptor.relationName other) = some r := by
    rw [hwiths, List.forall_mem_cons]
    exact ⟨hrelation, fun other hother => by rw [hsame other hother, hrelation]⟩
  have hfresh : (⟨m.name, Descriptor.relationName load⟩ : Link) ∉ ([] : List Link) := List.not_mem_nil
  obtain ⟨hschema, hstore⟩ := resolve_undeclared hread hloads hall hneeds hwiths hfresh _
  refine ⟨hschema, hstore, fun hcovered hhides => ⟨hhides.1, ?_⟩⟩
  exact Bool.of_not_eq_true fun hlocal => not_hidesKey_of_hasColumn hcovered hlocal hhides

end Library

namespace Sample

/-- The tags of a shelf by a code that shelves do not have, and by a shelf that tags do not have. -/
def shelf : Model :=
  model "shelf" "shelves" ["id", "room"]
    [("coded", ⟨.oneToMany, "tag", "code", "id", none, none⟩),
      ("placed", ⟨.oneToMany, "tag", "id", "shelf_id", none, none⟩)] false

/-- A library without a shelf. -/
def shelves : Library :=
  ⟨⟨[("shelf", shelf), ("tag", tag)]⟩, ⟨[("shelves", table ["id", "room"] []), ("tags", tags)]⟩⟩

/-- The request for columns of the shelves with the tags of a relation. -/
def shelved (columns : List String) (relation : String) : Descriptor :=
  { Descriptor.empty with select := columns, withs := [("tags", ⟨some relation, none⟩)] }

/-- Both relations are refused for the key that is not declared, though there is no shelf. -/
theorem undeclared_keys_noticed :
    shelves.run shelf (shelved [] "coded") = .error (.schema (.missingColumn "coded" "shelf" "code")) ∧
      shelves.run shelf (shelved ["room"] "placed") = .error (.schema (.missingColumn "placed" "tag" "shelf_id")) := by
  constructor
  · refine (Library.run_undeclared shelves shelf (shelved [] "coded") rfl nofun rfl (Or.inl rfl) rfl).1 ?_
    exact fun hhides => hhides.1 rfl
  · refine (Library.run_undeclared shelves shelf (shelved ["room"] "placed") rfl nofun rfl
      (Or.inr ⟨tag, rfl, rfl⟩) rfl).1 ?_
    rintro ⟨-, t, ht, hmissing⟩
    obtain rfl := Option.some.inj ht
    cases hmissing

/-- When a request lists columns of the shelves, it is the store that refuses it for the key. -/
theorem undeclared_key_unnoticed :
    ¬ ∀ (l : Library) (m : Model) (q : Descriptor) (load : String × With Descriptor) (r : Relation)
      (rows : List Record), m.CoveredIn l.store → q.withs = [load] →
      m.relation? (Descriptor.relationName load) = some r → l.NeedsUndeclared m r → l.run m q.bare = .ok rows →
      ∃ p, l.run m q = .error (.schema p) := by
  intro hall
  have hcovered : shelf.CoveredIn shelves.store := ⟨_, rfl, by decide⟩
  obtain ⟨p, hp⟩ := hall shelves shelf (shelved ["id"] "coded") _ _ [] hcovered rfl rfl (Or.inl rfl) rfl
  cases hp

end Sample

end DataModel

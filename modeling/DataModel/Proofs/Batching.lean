import DataModel.Proofs.Narrowing
import DataModel.Proofs.Sample

/-!
# One fetch for all parents

Related rows are fetched for all parents at once. What a parent gets is what a fetch for its own key alone
gives: the same rows in the same order, each with the same rows below it. What the other parents are makes no
difference (`Library.batched_eq_single`).

A parent without a related row gets no value from a one-to-one relation. It may hold one all the same: when no
columns are asked for, a row brings every stored cell, also one under the name of the eager-load, which is no
column of the model but may be one of the table.
-/

namespace DataModel

namespace Library

variable {l : Library} {chain : List Link} {m other : Model} {q sub : Descriptor} {r : Relation}

/-- What a one-to-one or one-to-many relation has for a key comes from the related rows of all keys. -/
theorem related_of_offer {read : Reader} {relation : String} {keys : List Value}
    {value : Option String → Option Value} (hkind : r.kind ≠ .manyToMany)
    (ho : l.offer read m relation r other sub keys = .ok value) :
    ∃ all, related read other sub r.foreignKey keys = .ok all ∧
      (r.kind = .oneToMany → ∀ key, value key = some (.list ((Stitch.withKey r.foreignKey key all).map .map))) ∧
      (r.kind = .oneToOne → ∀ key, value key = (Stitch.withKey r.foreignKey key all).head?.map .map) := by
  cases offer_eq_ok_iff.1 ho with
  | first hk hread => exact ⟨_, hread, by simp [hk], fun _ _ => rfl⟩
  | all hk hread => exact ⟨_, hread, fun _ _ => rfl, by simp [hk]⟩
  | linked hk => exact absurd hk hkind

/-- Of the related rows of all parents, those with the key of one parent are the answer for that key. -/
theorem answers_single {depth : Nat} {rows all : List Record}
    (hdiv : Divides (l.resolve depth chain) other sub r.foreignKey (Stitch.keysIn r.localKey rows))
    (hlocals : ∀ row ∈ rows, (row.cell r.localKey).isKeyCell = true)
    (hall : related (l.resolve depth chain) other sub r.foreignKey (Stitch.keysIn r.localKey rows) = .ok all)
    {row : Record} (hrow : row ∈ rows) {k : Int64} (hk : row.cell r.localKey = .int k) :
    l.Answers chain other (sub.forKeys r.foreignKey [.int k])
      (Stitch.withKey r.foreignKey (Stitch.keyAt r.localKey row) all) := by
  have hkey : Stitch.keyAt r.localKey row = some (Numeral.int64Text k) := by
    rw [Stitch.keyAt_eq, hk]
    rfl
  have hmem : Stitch.KeysAmong [.int k] (Stitch.keysIn r.localKey rows) := by
    intro v hv
    rw [List.mem_singleton.1 hv]
    exact Stitch.exists_mem_keysIn.2 ⟨row, hrow, hkey⟩
  have hsingle := hdiv _ [.int k] all (fun v hv => Stitch.isKeyCell_of_mem_keysIn hlocals hv)
    (fun v hv => by rw [List.mem_singleton.1 hv]; rfl) (.refl _) hmem hall
  rw [hkey, Stitch.withKey_eq_filter (v := .int k) rfl]
  exact ⟨depth, hsingle⟩

/-- Whether a row holds, under the name of an eager-load, the rows that answer the request for its own key
alone: all of them in a list or the first one, and none when it has no key. Without a first one it holds what
it held before. -/
structure GetsOwn (l : Library) (chain : List Link) (q : Descriptor) (name : String) (r : Relation)
    (other : Model) (sub : Descriptor) (source row : Record) (children : List Record) : Prop where
  keyed : ∀ k, row.cell r.localKey = .int k →
    l.Answers chain other (sub.forKeys r.foreignKey [.int k]) children
  unkeyed : row.cell r.localKey = .null → children = []
  many : r.kind = .oneToMany → row.get? name = some (.list (children.map .map))
  one : r.kind = .oneToOne → row.get? name = (children.head?.map .map).or (q.kept name source)

/-- What a row gets from a one-to-one or one-to-many relation does not depend on the other rows. -/
theorem batched_eq_single {rows : List Record} {load : String × With Descriptor}
    (h : l.Answers chain m q rows) (hnames : Assoc.Distinct q.withs) (hload : load ∈ q.withs)
    (hl : l.Loads m load r other sub) (hkind : r.kind ≠ .manyToMany)
    (hsep : l.Separable other (sub.forKeys r.foreignKey (Stitch.keysIn r.localKey rows)))
    (hcells : l.KeyCells rows r other sub) :
    List.Forall₂ (fun source row => ∃ children,
      l.GetsOwn (chain ++ [⟨m.name, Descriptor.relationName load⟩]) q load.1 r other sub source row children)
      (l.found m q) rows := by
  obtain ⟨depth, value, hforeign, ho, hrows⟩ := h.exists_offer hnames hload hl
  obtain ⟨all, hall, hmany, hone⟩ := related_of_offer hkind ho
  have hdiv : Divides (l.resolve depth (chain ++ [⟨m.name, Descriptor.relationName load⟩])) other sub
      r.foreignKey (Stitch.keysIn r.localKey rows) :=
    divides_resolve hsep hforeign hcells.foreigns fun v hv => Stitch.isKeyCell_of_mem_keysIn hcells.locals hv
  rw [List.forall₂_iff_zip] at hrows ⊢
  refine ⟨hrows.1, @fun source row hmem => ?_⟩
  have hrow := (List.of_mem_zip hmem).2
  have hget := hrows.2 hmem
  -- the children are taken from the related rows of all parents, by the key of this row
  refine ⟨Stitch.withKey r.foreignKey (Stitch.keyAt r.localKey row) all, ?_, ?_, ?_, ?_⟩
  · intro k hk
    exact answers_single hdiv hcells.locals hall hrow hk
  · intro hk
    rw [Stitch.keyAt_eq, hk]
    rfl
  · intro hkd
    rw [hget, hmany hkd]
    rfl
  · intro hkd
    rw [hget, hone hkd]

end Library

namespace Sample

theorem loads_books : library.Loads author ("books", ⟨none, some tagRequest⟩) written book tagRequest :=
  ⟨rfl, rfl, rfl⟩

theorem loads_tags : library.Loads book ("tags", ⟨none, none⟩) tagged tag .empty :=
  ⟨rfl, rfl, rfl⟩

/-- No level of the request for the books of some authors has a window, and rows are matched by integers. -/
theorem separable_book (keys : List Value) :
    library.Separable book (tagRequest.forKeys written.foreignKey keys) := by
  have hbooks : ∀ row ∈ library.rowsOf "books", (row.cell "id").isKeyCell = true := by decide
  refine Library.separable_of_level ⟨rfl, rfl, fun _ _ _ ho => absurd ho List.not_mem_nil, ?_⟩ ?_
  · intro load hload r other sub hl
    rw [List.mem_singleton.1 hload] at hl
    obtain ⟨rfl, rfl, rfl⟩ := hl.unique loads_tags
    exact keyCells_tagged (fun row hrow => hbooks row (List.mem_filter.1 hrow).1) .empty
  · intro load hload r other sub hl
    rw [List.mem_singleton.1 hload] at hl
    obtain ⟨rfl, rfl, rfl⟩ := hl.unique loads_tags
    exact Library.separable_of_bare rfl rfl rfl rfl

/-- Each author gets the author's own books, each with its tags. -/
theorem authors_get_own_books :
    List.Forall₂ (fun source row => ∃ children,
      library.GetsOwn [⟨"author", "books"⟩] request "books" written book tagRequest source row children)
      (library.found author request) answer := by
  have hcells : library.KeyCells answer written book tagRequest := ⟨by decide, by decide, nofun, nofun⟩
  exact Library.batched_eq_single (Library.answers_of_run run_request) distinct_request List.mem_cons_self
    loads_books (by decide) (separable_book _) hcells

/-- The child of a parent. -/
def only : Relation :=
  ⟨.oneToOne, "child", "key", "id", none, none⟩

def parent : Model :=
  model "parent" "parents" ["id", "key"] [("one", only)] false

def child : Model :=
  model "child" "children" ["id"] [] false

/-- Parents in a table with a column that the model does not declare. -/
def strayLibrary : Library :=
  ⟨⟨[("child", child), ("parent", parent)]⟩,
    ⟨[("children", table ["id"] []),
      ("parents", table ["id", "key", "one"] [[.int 1, .int 7, .text "kept"], [.int 2, .null, .text "kept"]])]⟩⟩

def strayRequest : Descriptor :=
  { Descriptor.empty with withs := [("one", ⟨none, none⟩)] }

/-- A one-to-one relation does not leave its key out of every row that has no related one: a column of the
table that is none of the model may have the name. -/
theorem unmatched_parent_holds_stored_cell :
    ¬ ∀ (l : Library) (m other : Model) (q sub : Descriptor) (rows : List Record)
      (load : String × With Descriptor) (r : Relation), l.Answers [] m q rows → Assoc.Distinct q.withs →
      load ∈ q.withs → l.Loads m load r other sub → r.kind = .oneToOne →
      l.Separable other (sub.forKeys r.foreignKey (Stitch.keysIn r.localKey rows)) →
      l.KeyCells rows r other sub → ∀ row ∈ rows, row.cell r.localKey = .null → row.get? load.1 = none := by
  intro h
  have hrun : strayLibrary.run parent strayRequest = .ok
      [[("id", .int 1), ("key", .int 7), ("one", .text "kept")],
        [("id", .int 2), ("key", .null), ("one", .text "kept")]] := rfl
  have hdistinct : Assoc.Distinct strayRequest.withs := by
    unfold Assoc.Distinct
    decide
  have hnone := h strayLibrary parent child strayRequest .empty _ ("one", ⟨none, none⟩) only
    (Library.answers_of_run hrun) hdistinct List.mem_cons_self ⟨rfl, rfl, rfl⟩ rfl
    (Library.separable_of_bare rfl rfl rfl rfl) ⟨by decide, by decide, nofun, nofun⟩ _
    (List.mem_cons_of_mem _ List.mem_cons_self) rfl
  cases hnone

end Sample

end DataModel

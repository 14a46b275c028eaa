import DataModel.Proofs.Narrowing
import DataModel.Proofs.Provenance
import DataModel.Proofs.Sample

/-!
# The order of related rows

Related rows are fetched for all parents at once, in the order of their query. A one-to-many relation deals
them out by key, and to leave rows out keeps the order; so what a parent gets stands in the order that was
asked for, at every depth. A many-to-many relation deals them out once for every row of the pivot. There the
order of the query is that of the rows behind one row of the pivot, and the order of the pivot decides between
them. `Library.Dealt` says this of what one row holds, and `Library.Arranged` of an answer with all that is
below it.
-/

namespace DataModel

namespace Library

variable {l : Library} {chain : List Link} {m other : Model} {q sub : Descriptor} {r : Relation}

/-- Whether rows stand in the order of a request, each beside the stored row it was made from: the stored rows do, and
so do the rows themselves when they have the columns that are ordered by. -/
def Ordered (l : Library) (m : Model) (q : Descriptor) (pairs : List (Record × Record)) : Prop :=
  Record.Ranked q.orders (l.rowsOf m.tableName) →
    Record.InOrder q.orders (pairs.map Prod.fst) ∧
      ((∀ o ∈ q.orders, q.select = [] ∨ o.column ∈ q.select) → Record.InOrder q.orders (pairs.map Prod.snd))

theorem Ordered.sublist {pairs kept : List (Record × Record)} (h : l.Ordered m q pairs) (hs : kept.Sublist pairs) :
    l.Ordered m q kept := by
  intro hranked
  obtain ⟨hsources, hrows⟩ := h hranked
  exact ⟨hsources.sublist (hs.map _), fun hshown => (hrows hshown).sublist (hs.map _)⟩

/-- What a row holds of the related rows that were fetched for all rows, in the order in which they were fetched. From
a one-to-many relation it holds some of them, in the order that was asked for. From a many-to-many relation it holds
some of them for each of its rows of the pivot, one after the other: those of one row are in the order that was asked
for, and all of them are exactly when none comes after one that is greater of a later row of the pivot. -/
structure Dealt (l : Library) (r : Relation) (other : Model) (sub : Descriptor) (fetched : List (Record × Record))
    (held : Option Value) : Prop where
  many : r.kind = .oneToMany → ∃ children : List (Record × Record), children.Sublist fetched ∧
    held = some (.list (children.map fun c => .map c.2)) ∧ l.Ordered other sub children
  linked : r.kind = .manyToMany → ∃ (pivot : Pivot) (links : List Record) (led : Record → List (Record × Record)),
    r.pivot = some pivot ∧ links.Sublist (l.rowsOf pivot.table) ∧
    (∀ link, (led link).Sublist fetched ∧ l.Ordered other sub (led link)) ∧
    held = some (.list (links.flatMap fun link => (led link).map fun c => .map (Stitch.inlined pivot link c.2))) ∧
    (Record.Ranked sub.orders (l.rowsOf other.tableName) →
      (Record.InOrder sub.orders (links.flatMap fun link => (led link).map Prod.fst) ↔
        links.Pairwise fun a b => ∀ x ∈ led a, ∀ y ∈ led b, Record.compareBy sub.orders x.1 y.1 ≠ .gt))

theorem Dealt.or {fetched : List (Record × Record)} {held : Option Value} (h : l.Dealt r other sub fetched held)
    (before : Option Value) : l.Dealt r other sub fetched (held.or before) where
  many hk := by
    obtain ⟨children, hs, hheld, ho⟩ := h.many hk
    exact ⟨children, hs, by rw [hheld, Option.some_or], ho⟩
  linked hk := by
    obtain ⟨pivot, links, led, hp, hs, hled, hheld, ho⟩ := h.linked hk
    exact ⟨pivot, links, led, hp, hs, hled, by rw [hheld, Option.some_or], ho⟩

/-- Whether the rows of a request, each beside the stored row it was made from, are arranged: they have the cells of
stored rows and stand in the order of the request, and every row holds of each eager-load what is dealt to it of rows
that are arranged themselves. -/
inductive Arranged (l : Library) : Model → Descriptor → List (Record × Record) → Prop
  | nothing {m : Model} {q : Descriptor} : Arranged l m q []
  | rows {m : Model} {q : Descriptor} {pairs : List (Record × Record)}
      (fetched : String × With Descriptor → List (Record × Record))
      (stored : (pairs.map Prod.fst).Subperm (l.rowsOf m.tableName))
      (cells : ∀ p ∈ pairs, ∀ c, m.hasColumn c = true → q.select = [] ∨ c ∈ q.select → p.2.cell c = p.1.cell c)
      (ordered : l.Ordered m q pairs)
      (dealt : Assoc.Distinct q.withs → ∀ load ∈ q.withs, ∀ r other sub, l.Loads m load r other sub →
        ∀ p ∈ pairs, l.Dealt r other sub (fetched load) (p.2.get? load.1))
      (below : ∀ load ∈ q.withs, ∀ r other sub, l.Loads m load r other sub →
        Arranged l other sub (fetched load)) : Arranged l m q pairs

theorem Arranged.ordered {pairs : List (Record × Record)} (h : l.Arranged m q pairs) : l.Ordered m q pairs := by
  cases h with
  | nothing => exact fun _ => ⟨List.Pairwise.nil, fun _ => List.Pairwise.nil⟩
  | rows _ _ _ ordered => exact ordered

/-- What is arranged for a request for keys is arranged for the request. -/
theorem Arranged.of_forKeys {column : String} {keys : List Value} {pairs : List (Record × Record)}
    (h : l.Arranged m (q.forKeys column keys) pairs) : l.Arranged m q pairs := by
  have hshown : ∀ c, q.select = [] ∨ c ∈ q.select →
      (q.forKeys column keys).select = [] ∨ c ∈ (q.forKeys column keys).select := fun c hc =>
    mem_select_forKeys keys (hc.imp_right Or.inl)
  cases h with
  | nothing => exact .nothing
  | rows fetched stored cells ordered dealt below =>
    refine .rows fetched stored (fun p hp c hc hcolumn => cells p hp c hc (hshown c hcolumn)) ?_ dealt below
    intro hranked
    obtain ⟨hsources, hrows⟩ := ordered hranked
    exact ⟨hsources, fun h => hrows fun o ho => hshown o.column (h o ho)⟩

theorem withKey_sublist (column : String) (key : Option String) (rows : List Record) :
    (Stitch.withKey column key rows).Sublist rows := by
  cases key with
  | none => exact List.nil_sublist _
  | some k => exact List.filter_sublist

/-- The rows of a key, each beside its stored row. -/
theorem exists_withKey (column : String) (pairs : List (Record × Record)) (key : Option String) :
    ∃ kept : List (Record × Record), kept.Sublist pairs ∧
      Stitch.withKey column key (pairs.map Prod.snd) = kept.map Prod.snd :=
  List.sublist_map_iff.1 (withKey_sublist column key _)

/-- What an eager-load has for a key comes from one answer, if any was asked for, in the order of that answer. -/
theorem dealt_of_offer {read : Reader} {relation : String} {keys : List Value}
    {value : Option String → Option Value} (ho : l.offer read m relation r other sub keys = .ok value) :
    ∃ children, (children = [] ∨ ∃ keys', read other (sub.forKeys r.foreignKey keys') = .ok children) ∧
      ∀ pairs : List (Record × Record), pairs.map Prod.snd = children → l.Ordered other sub pairs →
        ∀ key, l.Dealt r other sub pairs (value key) := by
  cases offer_eq_ok_iff.1 ho with
  | first hk hread => exact ⟨_, read_of_related hread, fun _ _ _ _ => ⟨by simp [hk], by simp [hk]⟩⟩
  | all hk hread =>
    refine ⟨_, read_of_related hread, fun pairs hpairs hordered key => ⟨fun _ => ?_, by simp [hk]⟩⟩
    obtain ⟨kept, hkept, hkeyed⟩ := exists_withKey r.foreignKey pairs key
    refine ⟨kept, hkept, ?_, hordered.sublist hkept⟩
    simp only [← hpairs, hkeyed, List.map_map]
    rfl
  | @linked pivot links children hk hp hl hread =>
    refine ⟨children, read_of_related hread, fun pairs hpairs hordered key => ⟨by simp [hk], fun _ => ?_⟩⟩
    choose led hled hkeyed using fun link => exists_withKey r.foreignKey pairs (Stitch.keyAt pivot.foreignKey link)
    refine ⟨pivot, Stitch.withKey pivot.localKey key links, led, pivot_of_pivotOf hp,
      (withKey_sublist _ _ _).trans (links_sublist hl), fun link => ⟨hled link, hordered.sublist (hled link)⟩, ?_, ?_⟩
    · simp only [← hpairs, hkeyed, List.map_map]
      rfl
    · intro hranked
      rw [Record.InOrder, List.pairwise_flatMap]
      constructor
      · intro h
        refine h.2.imp fun hab => ?_
        intro x hx y hy
        exact hab x.1 (List.mem_map_of_mem hx) y.1 (List.mem_map_of_mem hy)
      · intro h
        refine ⟨fun link _ => ((hordered.sublist (hled link)) hranked).1, h.imp fun hab => ?_⟩
        simpa using hab

/-- For each eager-load there are related rows that are arranged, and its values are dealt of them. -/
theorem exists_fetched {depth : Nat} {base : List Record}
    (ih : ∀ {chain m q rows}, l.resolve depth chain m q = .ok rows →
      ∃ pairs : List (Record × Record), pairs.map Prod.snd = rows ∧ l.Arranged m q pairs)
    (load : String × With Descriptor) :
    ∃ fetched, ∀ r other sub value, l.Loads m load r other sub →
      l.offer (l.resolve depth (chain ++ [⟨m.name, Descriptor.relationName load⟩])) m
        (Descriptor.relationName load) r other sub (Stitch.keysIn r.localKey base) = .ok value →
          l.Arranged other sub fetched ∧ ∀ key, l.Dealt r other sub fetched (value key) := by
  refine Loads.exists_for fun r other sub value _ ho => ?_
  obtain ⟨children, hread, hdealt⟩ := dealt_of_offer ho
  rcases hread with rfl | ⟨keys, hread⟩
  · have hnothing : l.Arranged other sub [] := .nothing
    exact ⟨[], hnothing, hdealt [] rfl hnothing.ordered⟩
  · obtain ⟨pairs, hrows, harranged⟩ := ih hread
    exact ⟨pairs, harranged.of_forKeys, hdealt pairs hrows harranged.of_forKeys.ordered⟩

/-- The rows of an answer are arranged. The induction is on the depth: the rows of a level stand in the order of its
request, and the levels below it are arranged. -/
theorem exists_arranged {depth : Nat} {rows : List Record} (h : l.resolve depth chain m q = .ok rows) :
    ∃ pairs : List (Record × Record), pairs.map Prod.snd = rows ∧ l.Arranged m q pairs := by
  induction depth generalizing chain m q rows with
  | zero => exact absurd h resolve_zero_ne_ok
  | succ depth ih =>
    obtain ⟨base, plan, hb, hp, rfl⟩ := resolve_succ_eq_ok_iff.1 h
    obtain ⟨t, -, hcan, rfl⟩ := read_eq_ok_iff.1 hb
    choose fetched hfetched using fun load => exists_fetched ih load
    let made : Record → Record := fun source => Stitch.decorate plan (Table.project (q.columnsFor m) source)
    have hcells : ∀ source c, m.hasColumn c = true → q.select = [] ∨ c ∈ q.select →
        (made source).cell c = source.cell c := by
      intro source c hc hcolumn
      rw [Record.cell_congr (hp.get?_decorate hc _), Table.cell_project (mem_columnsFor m hcolumn)]
    have hsources : ((l.found m q).map fun source => (source, made source)).map Prod.fst = l.found m q := by
      rw [List.map_map]
      exact List.map_id _
    refine ⟨(l.found m q).map fun source => (source, made source), ?_, .rows fetched ?_ ?_ ?_ ?_ ?_⟩
    · rw [List.map_map, List.map_map]
      rfl
    · rw [hsources]
      exact found_subperm l m q
    · intro p hmem c hc hcolumn
      obtain ⟨source, -, rfl⟩ := List.mem_map.1 hmem
      exact hcells source c hc hcolumn
    · intro hranked
      have hfound := inOrder_found hranked
      rw [hsources]
      refine ⟨hfound, fun hshown => ?_⟩
      have horders : ∀ source, ∀ o ∈ q.orders, (made source).cell o.column = source.cell o.column :=
        fun source o ho => hcells source o.column (hcan.orders o ho) (hshown o ho)
      rw [List.map_map, Record.InOrder, List.pairwise_map]
      refine hfound.imp fun {a b} hab => ?_
      rw [Function.comp_apply, Function.comp_apply, Record.compareBy_congr (horders a) (horders b)]
      exact hab
    · intro hnames load hload r other sub hl p hmem
      obtain ⟨source, -, rfl⟩ := List.mem_map.1 hmem
      obtain ⟨-, value, ha, ho⟩ := hp.of_mem hload hl
      have hget : (made source).get? load.1 =
          (value (Stitch.keyAt r.localKey (Table.project (q.columnsFor m) source))).or
            ((Table.project (q.columnsFor m) source).get? load.1) :=
        Stitch.get?_decorate_of_mem ha (hp.names_sublist.nodup hnames)
      rw [hget]
      exact ((hfetched load r other sub value hl ho).2 _).or _
    · intro load hload r other sub hl
      obtain ⟨-, value, -, ho⟩ := hp.of_mem hload hl
      exact (hfetched load r other sub value hl ho).1

/-- The rows of every answer are arranged, each beside the stored row it was made from. What a row gets from a
one-to-many relation stands in the order of the query, whatever the other rows are; from a many-to-many relation it
stands in that order exactly when the rows of the pivot lead to related rows in it. This holds at every depth. -/
theorem related_rows_arranged {rows : List Record} (h : l.Answers chain m q rows) :
    ∃ pairs : List (Record × Record), pairs.map Prod.snd = rows ∧ l.Arranged m q pairs := by
  obtain ⟨depth, hd⟩ := h
  exact exists_arranged hd

end Library

namespace Sample

/-- The request for books with their tags in the order of these. -/
def orderedTagRequest : Descriptor :=
  { Descriptor.empty with withs := [("tags", ⟨none, some (Descriptor.empty.orderedBy "id" .asc)⟩)] }

/-- The books with their tags are arranged. -/
theorem tagged_books_arranged :
    ∃ rows pairs, library.run book orderedTagRequest = .ok rows ∧ pairs.map Prod.snd = rows ∧
      library.Arranged book orderedTagRequest pairs := by
  have hrun : library.run book orderedTagRequest = .ok taggedBooks := rfl
  obtain ⟨pairs, hrows, harranged⟩ := Library.related_rows_arranged (Library.answers_of_run hrun)
  exact ⟨taggedBooks, pairs, hrun, hrows, harranged⟩

/-- Through a pivot the order of the query is not kept: the first book is linked to its second tag first. -/
theorem linked_rows_out_of_order :
    ¬ ∀ (l : Library) (m other : Model) (q sub : Descriptor) (rows : List Record)
      (load : String × With Descriptor) (r : Relation), l.Answers [] m q rows → Assoc.Distinct q.withs →
      load ∈ q.withs → l.Loads m load r other sub → r.kind = .manyToMany → sub.orders ≠ [] →
      sub.limit = none → sub.offset = none → l.KeyCells rows r other sub →
      Record.AllExact sub.orders (l.rowsOf other.tableName) → ∀ row ∈ rows, ∀ children : List Record,
        row.get? load.1 = some (.list (children.map .map)) → Record.InOrder sub.orders children := by
  intro h
  have hcells : library.KeyCells taggedBooks tagged tag (Descriptor.empty.orderedBy "id" .asc) :=
    keyCells_tagged (by decide) _
  have hrun : library.run book orderedTagRequest = .ok taggedBooks := rfl
  have hdistinct : Assoc.Distinct orderedTagRequest.withs := by
    unfold Assoc.Distinct
    decide
  have hexact : Record.AllExact [⟨"id", .asc⟩] (library.rowsOf "tags") := by
    unfold Record.AllExact
    decide
  have horder := h library book tag orderedTagRequest _ taggedBooks _ tagged (Library.answers_of_run hrun) hdistinct
    List.mem_cons_self ⟨rfl, rfl, rfl⟩ rfl nofun rfl rfl hcells hexact _ List.mem_cons_self
    [weighted 2 "new" (.int 5), weighted 1 "old" .null] rfl
  exact (List.pairwise_cons.1 horder).1 _ List.mem_cons_self rfl

end Sample

end DataModel

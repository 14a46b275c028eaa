import DataModel.Proofs.Narrowing
import Mathlib.Data.List.Perm.Subperm

/-!
# Where the rows of an answer come from

Every row of an answer is made from a stored row of its model's table, another one for each, that passes the
filter of its level and, where the model marks deleted rows and the level does not ask for them, is not
deleted (`Library.Sourced`). It has the cells of that row in the columns that are read, and besides them only
what the eager-loads put there (`Library.Rendered`). A one-to-one relation puts one related row with the key of
the row, a one-to-many relation a list of such, and a many-to-many relation a list of those that stored rows of
its pivot lead to (`Library.Attached`). The related rows are the answer to a request of their own, so the same
holds of them, at every depth.
-/

namespace DataModel

/-- Whether two cells have one key. A cell without a key has it with no other. -/
def Value.SameKey (v w : Value) : Prop :=
  ∃ k, v.key = some k ∧ w.key = some k

namespace Library

variable {l : Library}

/-- What a relation puts onto a row that is made from a stored one, when some related rows were read: one of them or
a list of them, as the kind of the relation says. Those of a one-to-one and of a one-to-many relation have the key of
the stored row. Those of a many-to-many relation have the key of a stored row of the pivot that has the key of the
stored row, and come with the columns of that row of the pivot. -/
inductive Attached (l : Library) (r : Relation) (source : Record) (children : List Record) : Value → Prop
  | first {child : Record} (hkind : r.kind = .oneToOne) (hchild : child ∈ children)
      (hkey : (source.cell r.localKey).SameKey (child.cell r.foreignKey)) :
      Attached l r source children (.map child)
  | all {listed : List Record} (hkind : r.kind = .oneToMany) (hlisted : ∀ child ∈ listed, child ∈ children ∧
        (source.cell r.localKey).SameKey (child.cell r.foreignKey)) :
      Attached l r source children (.list (listed.map .map))
  | linked {pivot : Pivot} {pairs : List (Record × Record)} (hkind : r.kind = .manyToMany)
      (hpivot : r.pivot = some pivot)
      (hlinks : ∀ p ∈ pairs, p.1 ∈ l.rowsOf pivot.table ∧
        (source.cell r.localKey).SameKey (p.1.cell pivot.localKey))
      (hchildren : ∀ p ∈ pairs, p.2 ∈ children ∧
        (p.1.cell pivot.foreignKey).SameKey (p.2.cell r.foreignKey)) :
      Attached l r source children (.list (pairs.map fun p => .map (Stitch.inlined pivot p.1 p.2)))

/-- The rows that a one-to-many relation lists are among the related rows that were read. -/
theorem Attached.mem_of_listed {r : Relation} {source : Record} {children listed : List Record}
    (h : l.Attached r source children (.list (listed.map .map))) (hkind : r.kind = .oneToMany) :
    ∀ child ∈ listed, child ∈ children := by
  generalize hv : Value.list (listed.map .map) = v at h
  cases h with
  | first => cases hv
  | all _ hlisted =>
    have hsame := List.map_injective_iff.2 (fun _ _ => Value.map.inj) (Value.list.inj hv)
    exact fun child hchild => (hlisted child (hsame ▸ hchild)).1
  | linked hkind' =>
    rw [hkind] at hkind'
    cases hkind'

/-- Whether a row is what a request makes of a stored row, when some related rows were read for each eager-load: the
stored row with the columns that are read, and then what the relations of eager-loads put there under their names. -/
def Rendered (l : Library) (m : Model) (q : Descriptor) (children : String × With Descriptor → List Record)
    (source row : Record) : Prop :=
  ∃ pairs : List (String × Value), row = (Table.project (q.columnsFor m) source).extend pairs ∧
    ∀ e ∈ pairs, ∃ load ∈ q.withs, load.1 = e.1 ∧
      ∃ r other sub, l.Loads m load r other sub ∧ l.Attached r source (children load) e.2

/-- Under every name such a row holds what was read of the stored row, or what an eager-load has put there. -/
theorem Rendered.get?_cases {m : Model} {q : Descriptor} {children : String × With Descriptor → List Record}
    {source row : Record} (h : l.Rendered m q children source row) (name : String) :
    row.get? name = (Table.project (q.columnsFor m) source).get? name ∨ ∃ load ∈ q.withs, load.1 = name ∧
      ∃ r other sub v, l.Loads m load r other sub ∧ l.Attached r source (children load) v ∧
        row.get? name = some v := by
  obtain ⟨pairs, rfl, hpairs⟩ := h
  rw [Assoc.get?_extend]
  cases hfind : pairs.reverse.find? fun e => e.1 = name with
  | none => exact Or.inl rfl
  | some e =>
    have hname : e.1 = name := by simpa using List.find?_some hfind
    obtain ⟨load, hload, hload', r, other, sub, hl, hattached⟩ :=
      hpairs e (List.mem_reverse.1 (List.mem_of_find?_eq_some hfind))
    exact Or.inr ⟨load, hload, hload'.trans hname, r, other, sub, e.2, hl, hattached, rfl⟩

/-- Whether the rows of a request come from stored rows. Each row is made from a stored one of its own: that one passes
the filter and is not deleted, unless deleted rows are asked for. No eager-load has the name of a column, and the
related rows of each come from stored rows for the request that asks for them by key. -/
inductive Sourced (l : Library) : Model → Descriptor → List Record → Prop
  | nothing {m : Model} {q : Descriptor} : Sourced l m q []
  | rows {m : Model} {q : Descriptor} {rows : List Record} (sources : List Record)
      (children : String × With Descriptor → List Record) (keys : String × With Descriptor → List Value)
      (stored : sources.Subperm (l.rowsOf m.tableName))
      (passing : ∀ source ∈ sources, source.passes q.wheres = true)
      (live : m.marksDeleted = true → q.withTrashed = false →
        ∀ source ∈ sources, source.isNullAt deletedAt = true)
      (names : ∀ load ∈ q.withs, m.hasColumn load.1 = false)
      (rendered : List.Forall₂ (l.Rendered m q children) sources rows)
      (below : ∀ load ∈ q.withs, ∀ r other sub, l.Loads m load r other sub →
        Sourced l other (sub.forKeys r.foreignKey (keys load)) (children load)) : Sourced l m q rows

/-- What comes from stored rows for a request does so for one with the same columns and eager-loads and a weaker
filter. -/
theorem Sourced.weaken {m : Model} {q q' : Descriptor} {rows : List Record} (h : l.Sourced m q' rows)
    (hselect : q'.select = q.select) (hwiths : q'.withs = q.withs) (htrashed : q'.withTrashed = q.withTrashed)
    (hpasses : ∀ row : Record, row.passes q'.wheres = true → row.passes q.wheres = true) :
    l.Sourced m q rows := by
  have hcolumns : q'.columnsFor m = q.columnsFor m := by
    rw [Descriptor.columnsFor, Descriptor.neededKeys, hselect, hwiths, Descriptor.columnsFor, Descriptor.neededKeys]
  cases h with
  | nothing => exact .nothing
  | rows sources children keys stored passing live names rendered below =>
    rw [hwiths] at names below
    rw [htrashed] at live
    refine .rows sources children keys stored (fun source hs => hpasses source (passing source hs)) live names ?_ below
    refine rendered.imp fun source row h => ?_
    rw [Rendered, ← hcolumns, ← hwiths]
    exact h

/-- One row of several that come from stored rows does so. -/
theorem Sourced.head {m : Model} {q : Descriptor} {row : Record} {rows : List Record}
    (h : l.Sourced m q (row :: rows)) : l.Sourced m q [row] := by
  cases h with
  | rows sources children keys stored passing live names rendered below =>
    obtain ⟨source, rest, hrow, -, rfl⟩ := List.forall₂_cons_right_iff.1 rendered
    have hfirst : [source].Subperm (source :: rest) := ((List.nil_sublist rest).cons_cons source).subperm
    refine .rows [source] children keys (hfirst.trans stored) ?_ ?_ names (.cons hrow .nil) below
    · exact fun s hs => passing s (List.mem_cons.2 (Or.inl (List.mem_singleton.1 hs)))
    · exact fun hm hq s hs => live hm hq s (List.mem_cons.2 (Or.inl (List.mem_singleton.1 hs)))

/-- Where deleted rows are hidden, a row that comes from a stored row shows one that is not deleted, in every column of
the model that is asked for. -/
theorem Sourced.exists_live {m : Model} {q : Descriptor} {rows : List Record} (h : l.Sourced m q rows)
    (hm : m.marksDeleted = true) (hq : q.withTrashed = false) : ∀ row ∈ rows, ∃ source ∈ l.rowsOf m.tableName,
      source.isNullAt deletedAt = true ∧
        ∀ c, m.hasColumn c = true → q.select = [] ∨ c ∈ q.select → row.cell c = source.cell c := by
  intro row hrow
  cases h with
  | nothing => simp at hrow
  | rows sources children keys stored passing live names rendered below =>
    obtain ⟨source, hsource, hr⟩ := exists_of_mem_forall₂ rendered hrow
    refine ⟨source, stored.subset hsource, live hm hq source hsource, fun c hc hcolumn => ?_⟩
    rcases hr.get?_cases c with hget | ⟨load, hload, rfl, -⟩
    · rw [Record.cell_congr hget, Table.cell_project (mem_columnsFor m hcolumn)]
    · exact absurd rfl (Model.hasColumn_ne (names load hload) hc)

theorem passes_of_narrowed {q : Descriptor} {column : String} {op : Operator} {value : Value} {row : Record}
    (h : row.passes (q.narrowed (.compare column op value)).wheres = true) : row.passes q.wheres = true := by
  rw [Record.passes_narrowed, Bool.and_eq_true] at h
  exact h.2

theorem found_subperm (l : Library) (m : Model) (q : Descriptor) :
    (l.found m q).Subperm (l.rowsOf m.tableName) :=
  (Table.window_sublist _ _ _).subperm.trans
    ((Record.perm_sortedBy _ _).subperm.trans List.filter_sublist.subperm)

/-- Rows that are found under the key of a cell have that key. -/
theorem sameKey_of_mem_withKey {v : Value} {column : String} {rows : List Record} {row : Record}
    (h : row ∈ Stitch.withKey column v.key rows) : row ∈ rows ∧ v.SameKey (row.cell column) := by
  obtain ⟨hrow, k, hv, hk⟩ := Stitch.mem_withKey_iff.1 h
  exact ⟨hrow, k, hv, (Stitch.keyAt_eq column row).symm.trans hk⟩

/-- What an eager-load has for the key of a stored row is attached of the rows that it read, if it read any. -/
theorem attached_of_offer {read : Reader} {m other : Model} {relation : String} {r : Relation}
    {sub : Descriptor} {keys : List Value} {value : Option String → Option Value}
    (ho : l.offer read m relation r other sub keys = .ok value) :
    ∃ children, (children = [] ∨ ∃ keys', read other (sub.forKeys r.foreignKey keys') = .ok children) ∧
      ∀ source v, value (source.cell r.localKey).key = some v → l.Attached r source children v := by
  cases offer_eq_ok_iff.1 ho with
  | first hkind hread =>
    refine ⟨_, read_of_related hread, fun source v hv => ?_⟩
    obtain ⟨child, hfirst, rfl⟩ := Option.map_eq_some_iff.1 hv
    obtain ⟨hchild, hkey⟩ := sameKey_of_mem_withKey (List.mem_of_mem_head? hfirst)
    exact .first hkind hchild hkey
  | all hkind hread =>
    refine ⟨_, read_of_related hread, fun source v hv => ?_⟩
    rw [← Option.some.inj hv]
    exact .all hkind fun child hchild => sameKey_of_mem_withKey hchild
  | @linked pivot links children hkind hpivot hlinks hread =>
    refine ⟨children, read_of_related hread, fun source v hv => ?_⟩
    -- the nested loop goes through pairs of a link and a related row
    let pairs := (Stitch.withKey pivot.localKey (source.cell r.localKey).key links).flatMap fun link =>
      (Stitch.withKey r.foreignKey (Stitch.keyAt pivot.foreignKey link) children).map fun child => (link, child)
    have hv' : v = .list (pairs.map fun p => .map (Stitch.inlined pivot p.1 p.2)) := by
      rw [← Option.some.inj hv, List.map_flatMap]
      simp only [List.map_map]
      rfl
    have hpairs : ∀ p ∈ pairs, p.1 ∈ Stitch.withKey pivot.localKey (source.cell r.localKey).key links ∧
        p.2 ∈ Stitch.withKey r.foreignKey (p.1.cell pivot.foreignKey).key children := by
      intro p hp
      obtain ⟨link, hlink, hp⟩ := List.mem_flatMap.1 hp
      obtain ⟨child, hchild, rfl⟩ := List.mem_map.1 hp
      exact ⟨hlink, by rwa [Stitch.keyAt_eq] at hchild⟩
    rw [hv']
    refine .linked hkind (pivot_of_pivotOf hpivot) (fun p hp => ?_) fun p hp => ?_
    · obtain ⟨hlink, hkey⟩ := sameKey_of_mem_withKey (hpairs p hp).1
      exact ⟨(links_sublist hlinks).subset hlink, hkey⟩
    · exact sameKey_of_mem_withKey (hpairs p hp).2

/-- For each eager-load there are rows that come from stored rows for one request for keys, and what it has is attached
of them. -/
theorem exists_children {depth : Nat} {chain : List Link} {m : Model} {base : List Record}
    (ih : ∀ {chain m q rows}, l.resolve depth chain m q = .ok rows → l.Sourced m q rows)
    (load : String × With Descriptor) :
    ∃ fetched : List Record × List Value, ∀ r other sub value, l.Loads m load r other sub →
      l.offer (l.resolve depth (chain ++ [⟨m.name, Descriptor.relationName load⟩])) m
        (Descriptor.relationName load) r other sub (Stitch.keysIn r.localKey base) = .ok value →
          l.Sourced other (sub.forKeys r.foreignKey fetched.2) fetched.1 ∧
            ∀ source v, value (source.cell r.localKey).key = some v → l.Attached r source fetched.1 v := by
  refine Loads.exists_for fun r other sub value _ ho => ?_
  obtain ⟨children, hread, hattached⟩ := attached_of_offer ho
  rcases hread with rfl | ⟨keys, hread⟩
  · exact ⟨([], []), .nothing, hattached⟩
  · exact ⟨(children, keys), ih hread, hattached⟩

/-- The rows of every answer come from stored rows. The induction is on the depth; a level takes the rows of
the levels below it as they are. -/
theorem resolve_sourced {depth : Nat} {chain : List Link} {m : Model} {q : Descriptor} {rows : List Record}
    (h : l.resolve depth chain m q = .ok rows) : l.Sourced m q rows := by
  induction depth generalizing chain m q rows with
  | zero => exact absurd h resolve_zero_ne_ok
  | succ depth ih =>
    obtain ⟨base, plan, hb, hp, rfl⟩ := resolve_succ_eq_ok_iff.1 h
    obtain ⟨t, -, -, rfl⟩ := read_eq_ok_iff.1 hb
    choose fetched hfetched using fun load => exists_children ih load
    refine .rows (l.found m q) (fun load => (fetched load).1) (fun load => (fetched load).2)
      (found_subperm l m q) ?_ ?_ ?_ ?_ ?_
    · exact fun source hs => (admits_iff.1 (mem_found hs).2).1
    · exact fun hm hq source hs => (admits_iff.1 (mem_found hs).2).2 hm hq
    · exact fun load hmem => hp.hasColumn_name hmem
    · rw [List.map_map, List.forall₂_map_right_iff, List.forall₂_same]
      intro source _
      refine ⟨_, rfl, fun e he => ?_⟩
      obtain ⟨a, ha, hpair⟩ := List.mem_filterMap.1 he
      obtain ⟨v, hv, rfl⟩ := Option.map_eq_some_iff.1 hpair
      obtain ⟨load, hmem, r, other, sub, hl, hname, hlocal, ho⟩ := hp.exists_load ha
      -- the key is among the columns that are read, so it is that of the stored row
      rw [Stitch.keyAt_eq, hlocal,
        Table.cell_project (Descriptor.localKey_mem_columnsFor hmem hl.relation)] at hv
      exact ⟨load, hmem, hname.symm, r, other, sub, hl, (hfetched load r other sub a.value hl ho).2 source v hv⟩
    · intro load hmem r other sub hl
      obtain ⟨-, value, -, ho⟩ := hp.of_mem hmem hl
      exact (hfetched load r other sub value hl ho).1

theorem Answers.sourced {chain : List Link} {m : Model} {q : Descriptor} {rows : List Record}
    (h : l.Answers chain m q rows) : l.Sourced m q rows := by
  obtain ⟨depth, h⟩ := h
  exact resolve_sourced h

end Library

end DataModel

import DataModel.Proofs.Resolution
import DataModel.Proofs.Sample

/-! The eager-loads of a request put keys onto its rows and do nothing else: without those keys the rows are the
ones that the request has without its eager-loads, and what is put onto a row does not depend on the columns
that were asked for. -/

namespace DataModel

namespace Descriptor

/-- A request without its eager-loads. To the columns that are asked for, if any are, it adds the keys
that the eager-loads need. -/
def withoutLoads (q : Descriptor) (m : Model) : Descriptor :=
  { q with
    select :=
      if q.select = [] then []
      else q.select ++ ((q.neededKeys m).filter fun k => !q.select.contains k).eraseDups
    withs := [] }

theorem select_withoutLoads (q : Descriptor) (m : Model) : (q.withoutLoads m).select = q.columnsFor m :=
  (Model.withKeys_eq q.select (q.neededKeys m)).symm

theorem columnsFor_withoutLoads (q : Descriptor) (m : Model) :
    (q.withoutLoads m).columnsFor m = q.columnsFor m := by
  rw [columnsFor, neededKeys, select_withoutLoads, Model.withKeys_eq]
  simp [withoutLoads]

end Descriptor

namespace Table

/-- A row with a cell for a column is found to have it, whichever other columns it is read with. -/
theorem get?_project_of_mem {columns : List String} {row : Record} {c : String} (hrow : c ∈ row.keys)
    (hc : columns = [] ∨ c ∈ columns) : (project columns row).get? c = some (row.cell c) := by
  rw [get?_project]
  by_cases hn : columns = []
  · rw [if_pos hn, Record.get?_eq_some_cell hrow]
  · rw [if_neg hn, if_pos (hc.resolve_left hn)]

end Table

namespace Library

variable {l : Library} {m : Model} {t : Table} {q : Descriptor}

/-- A request that can be answered can be answered with other columns of the model as well. -/
theorem canAsk_selecting {columns : List String} (hcols : ∀ c, t.hasColumn c = m.hasColumn c)
    (hlocal : ∀ load ∈ q.withs, ∀ r, m.relation? (Descriptor.relationName load) = some r →
      m.hasColumn r.localKey = true)
    (hc : ∀ c ∈ columns, m.hasColumn c = true) (h : m.CanAsk t q) : m.CanAsk t (q.selecting columns) := by
  refine ⟨hc, h.orders, h.wheres, fun c hmem => ?_, h.ordered, h.filtered, h.marked⟩
  rw [Descriptor.columnsFor, Model.withKeys_eq] at hmem
  split at hmem
  · simp at hmem
  rw [hcols]
  rcases List.mem_append.1 hmem with hmem | hmem
  · exact hc c hmem
  · obtain ⟨load, hload, hr⟩ := List.mem_filterMap.1 (List.mem_filter.1 (List.mem_eraseDups.1 hmem)).1
    obtain ⟨r, hrel, rfl⟩ := Option.map_eq_some_iff.1 hr
    exact hlocal load hload r hrel

theorem canAsk_withoutLoads (hcols : ∀ c, t.hasColumn c = m.hasColumn c) (h : m.CanAsk t q) :
    m.CanAsk t (q.withoutLoads m) := by
  refine ⟨fun c hc => ?_, h.orders, h.wheres, fun c hc => ?_, h.ordered, h.filtered, h.marked⟩
  · rw [Descriptor.select_withoutLoads] at hc
    rw [← hcols]
    exact h.selected c hc
  · rw [Descriptor.columnsFor_withoutLoads] at hc
    exact h.selected c hc

/-- The rows that a request reads have cells under columns of the model only. -/
theorem hasColumn_of_mem_read {base : List Record} (ht : l.store.tables.get? m.tableName = some t)
    (hsound : t.Sound) (hcols : ∀ c, t.hasColumn c = m.hasColumn c) (hb : l.read m q = .ok base)
    {row : Record} (hrow : row ∈ base) {c : String} (hc : c ∈ row.keys) : m.hasColumn c = true := by
  obtain ⟨t', ht', hcan, rfl⟩ := read_eq_ok_iff.1 hb
  rw [Option.some.inj (ht'.symm.trans ht)] at hcan
  obtain ⟨source, hsource, rfl⟩ := List.mem_map.1 hrow
  rw [← hcols]
  rcases Table.mem_keys_project hc with hc | ⟨-, hc⟩
  · exact hcan.selected c hc
  · have hstored := (mem_found hsource).1
    rw [rowsOf_eq ht] at hstored
    exact (hsound.rows source hstored c).1 hc

/-- The rows of a request without its eager-loads are the rows it had before them. -/
theorem run_withoutLoads {base : List Record} (hcols : ∀ c, t.hasColumn c = m.hasColumn c)
    (ht : l.store.tables.get? m.tableName = some t) (hb : l.read m q = .ok base) :
    l.run m (q.withoutLoads m) = .ok base := by
  obtain ⟨t', ht', hcan, rfl⟩ := read_eq_ok_iff.1 hb
  rw [Option.some.inj (ht'.symm.trans ht)] at hcan
  have hread : l.read m (q.withoutLoads m) = .ok ((l.found m q).map (Table.project (q.columnsFor m))) := by
    refine read_eq_ok_iff.2 ⟨t, ht, canAsk_withoutLoads hcols hcan, ?_⟩
    rw [Descriptor.columnsFor_withoutLoads]
    rfl
  exact resolve_succ_eq_ok_iff.2 ⟨_, [], hread, .done, (List.map_id _).symm⟩

/-- The same rows with other columns have the same local keys. -/
theorem localKeys_selecting (hsound : t.Sound) (ht : l.store.tables.get? m.tableName = some t)
    (hcols : ∀ c, t.hasColumn c = m.hasColumn c) (columns : List String) {load : String × With Descriptor}
    (hload : load ∈ q.withs) {r : Relation} (hr : m.relation? (Descriptor.relationName load) = some r)
    (hlocal : m.hasColumn r.localKey = true) {source : Record} (hsource : source ∈ l.found m q) :
    (Table.project (q.columnsFor m) source).get? r.localKey =
      (Table.project ((q.selecting columns).columnsFor m) source).get? r.localKey := by
  have hstored := (mem_found hsource).1
  rw [rowsOf_eq ht] at hstored
  have hkey : r.localKey ∈ source.keys := (hsound.rows source hstored r.localKey).2 (by rw [hcols, hlocal])
  rw [Table.get?_project_of_mem hkey (Descriptor.localKey_mem_columnsFor hload hr),
    Table.get?_project_of_mem hkey (Descriptor.localKey_mem_columnsFor (q := q.selecting columns) hload hr)]

/-- The plan for the rows of a request is one for the same rows with other columns. -/
theorem planned_selecting {read : List Link → Reader} {chain : List Link} {plan : List Stitch.Attachment}
    (hsound : t.Sound) (ht : l.store.tables.get? m.tableName = some t)
    (hcols : ∀ c, t.hasColumn c = m.hasColumn c) (columns : List String)
    (hp : Planned l read chain m ((l.found m q).map (Table.project (q.columnsFor m))) q.withs plan) :
    Planned l read chain m ((l.found m q).map (Table.project ((q.selecting columns).columnsFor m)))
      q.withs plan := by
  refine hp.congr fun load hload r hr hlocal => ?_
  rw [List.map_map, List.map_map]
  exact List.map_congr_left fun source hsource =>
    localKeys_selecting hsound ht hcols columns hload hr hlocal hsource

/-- Two rows with the same local keys are decorated alike. -/
theorem get?_decorate_name {read : List Link → Reader} {chain : List Link} {base : List Record}
    {plan : List Stitch.Attachment} (hp : Planned l read chain m base q.withs plan)
    (hnames : Assoc.Distinct q.withs) {row other : Record}
    (hrow : ∀ c ∈ row.keys, m.hasColumn c = true) (hother : ∀ c ∈ other.keys, m.hasColumn c = true)
    (hlocal : ∀ load ∈ q.withs, ∀ r, m.relation? (Descriptor.relationName load) = some r →
      row.get? r.localKey = other.get? r.localKey)
    {load : String × With Descriptor} (hload : load ∈ q.withs) :
    (Stitch.decorate plan other).get? load.1 = (Stitch.decorate plan row).get? load.1 := by
  have hcol := hp.hasColumn_name hload
  have habsent : ∀ s : Record, (∀ c ∈ s.keys, m.hasColumn c = true) → s.get? load.1 = none := by
    intro s hs
    refine Assoc.get?_eq_none_iff.2 fun hc => ?_
    rw [hs _ hc] at hcol
    cases hcol
  by_cases hex : ∃ a ∈ plan, a.name = load.1
  · -- names differ, so the one attachment of this name decides, and it reads a local key
    obtain ⟨a, ha, hname⟩ := hex
    have hd := hp.names_sublist.nodup hnames
    obtain ⟨load', hload', r, _, _, hl, -, hkey, -⟩ := hp.exists_load ha
    have hkeys : Stitch.keyAt a.localKey other = Stitch.keyAt a.localKey row := by
      rw [Stitch.keyAt, Stitch.keyAt, hkey, hlocal load' hload' r hl.relation]
    rw [← hname, Stitch.get?_decorate_of_mem ha hd, Stitch.get?_decorate_of_mem ha hd, hkeys, hname,
      habsent row hrow, habsent other hother]
  · rw [Stitch.get?_decorate_of_not_mem fun a ha hn => hex ⟨a, ha, hn⟩,
      Stitch.get?_decorate_of_not_mem fun a ha hn => hex ⟨a, ha, hn⟩, habsent row hrow, habsent other hother]

/-- The request for other columns reads the same rows. -/
theorem read_selecting {base : List Record} (ht : l.store.tables.get? m.tableName = some t)
    (hcols : ∀ c, t.hasColumn c = m.hasColumn c)
    (hlocal : ∀ load ∈ q.withs, ∀ r, m.relation? (Descriptor.relationName load) = some r →
      m.hasColumn r.localKey = true)
    (hb : l.read m q = .ok base) {columns : List String} (hc : ∀ c ∈ columns, m.hasColumn c = true) :
    l.read m (q.selecting columns) =
      .ok ((l.found m q).map (Table.project ((q.selecting columns).columnsFor m))) := by
  obtain ⟨t', ht', hcan, -⟩ := read_eq_ok_iff.1 hb
  rw [Option.some.inj (ht'.symm.trans ht)] at hcan
  exact read_eq_ok_iff.2 ⟨t, ht, canAsk_selecting hcols hlocal hc hcan, rfl⟩

/-- Without the keys of its eager-loads a decorated row is what it was. -/
theorem without_decorate_eq_self {read : List Link → Reader} {chain : List Link} {base : List Record}
    {plan : List Stitch.Attachment} (hp : Planned l read chain m base q.withs plan) {row : Record}
    (hrow : ∀ load ∈ q.withs, load.1 ∉ row.keys) :
    (Stitch.decorate plan row).without (q.withs.map Prod.fst) = row := by
  have hplan : ∀ a ∈ plan, a.name ∈ q.withs.map Prod.fst := fun a ha =>
    hp.names_sublist.subset (List.mem_map_of_mem ha)
  refine (Stitch.without_decorate hplan row).trans (Assoc.without_eq_self fun c hc hname => ?_)
  obtain ⟨load, hload, rfl⟩ := List.mem_map.1 hname
  exact hrow load hload hc

/-- An eager-load of a relation that is not declared adds no key. -/
theorem not_mem_keys_decorate {read : List Link → Reader} {chain : List Link} {base : List Record}
    {plan : List Stitch.Attachment} (hp : Planned l read chain m base q.withs plan)
    (hnames : Assoc.Distinct q.withs) {load : String × With Descriptor} (hload : load ∈ q.withs)
    (hnone : m.relation? (Descriptor.relationName load) = none) {row : Record} (hrow : load.1 ∉ row.keys) :
    load.1 ∉ (Stitch.decorate plan row).keys := by
  have hplan : ∀ a ∈ plan, a.name ≠ load.1 := by
    intro a ha hname
    obtain ⟨load', hload', r, _, _, hl, hname', -⟩ := hp.exists_load ha
    have hsame : load' = load := List.inj_on_of_nodup_map hnames hload' hload (hname'.symm.trans hname)
    rw [← hsame, hl.relation] at hnone
    cases hnone
  rwa [← Assoc.get?_eq_none_iff, Stitch.get?_decorate_of_not_mem hplan, Assoc.get?_eq_none_iff]

/-- Eager-loading only decorates. Without the keys of its eager-loads, the rows of a request are those of
the request without eager-loads; an eager-load of a relation that is not declared adds no key; and the
columns that are asked for make no difference to what is put onto a row. -/
theorem run_decorates {rows : List Record} (ht : l.store.tables.get? m.tableName = some t) (hsound : t.Sound)
    (hcols : ∀ c, t.hasColumn c = m.hasColumn c) (hnames : Assoc.Distinct q.withs) (h : l.run m q = .ok rows) :
    l.run m (q.withoutLoads m) = .ok (rows.map (Assoc.without (q.withs.map Prod.fst))) ∧
      (∀ load ∈ q.withs, m.relation? (Descriptor.relationName load) = none →
        ∀ row ∈ rows, load.1 ∉ row.keys) ∧
      ∀ columns : List String, (∀ c ∈ columns, m.hasColumn c = true) →
        ∃ rows', l.run m (q.selecting columns) = .ok rows' ∧
          List.Forall₂ (fun row row' => ∀ load ∈ q.withs, row'.get? load.1 = row.get? load.1) rows rows' := by
  obtain ⟨base, plan, hb, hp, rfl⟩ := resolve_succ_eq_ok_iff.1 h
  have hkeys : ∀ row ∈ base, ∀ c ∈ row.keys, m.hasColumn c = true := fun row hrow c hc =>
    hasColumn_of_mem_read ht hsound hcols hb hrow hc
  have hnot : ∀ row ∈ base, ∀ load ∈ q.withs, load.1 ∉ row.keys := by
    intro row hrow load hload hc
    have hcol := hkeys row hrow _ hc
    rw [hp.hasColumn_name hload] at hcol
    cases hcol
  refine ⟨?_, ?_, ?_⟩
  · have hwithout : ∀ row ∈ base,
        (Assoc.without (q.withs.map Prod.fst) ∘ Stitch.decorate plan) row = id row := fun row hrow =>
      without_decorate_eq_self hp (hnot row hrow)
    rw [run_withoutLoads hcols ht hb, List.map_map, List.map_congr_left hwithout, List.map_id]
  · intro load hload hnone row hrow
    obtain ⟨source, hsource, rfl⟩ := List.mem_map.1 hrow
    exact not_mem_keys_decorate hp hnames hload hnone (hnot source hsource load hload)
  · intro columns hc
    have hread := read_selecting ht hcols (fun load hload r hr => hp.hasColumn_localKey hload hr) hb hc
    obtain ⟨t', ht', -, rfl⟩ := read_eq_ok_iff.1 hb
    have hplan := planned_selecting hsound ht hcols columns hp
    refine ⟨_, resolve_succ_eq_ok_iff.2 ⟨_, plan, hread, hplan, rfl⟩, ?_⟩
    rw [List.map_map, List.map_map, List.forall₂_map_left_iff, List.forall₂_map_right_iff, List.forall₂_same]
    intro source hsource load hload
    refine get?_decorate_name hp hnames (hkeys _ (List.mem_map_of_mem hsource)) ?_ ?_ hload
    · exact fun c hc => hasColumn_of_mem_read ht hsound hcols hread (List.mem_map_of_mem hsource) hc
    · intro load' hload' r hr
      exact localKeys_selecting hsound ht hcols columns hload' hr (hp.hasColumn_localKey hload' hr) hsource

end Library

namespace Sample

/-- Authors with their books are the authors without them, and a relation that is not declared adds nothing. -/
theorem authors_decorated :
    library.run author (request.withoutLoads author) =
        .ok (answer.map (Assoc.without ["books", "prizes"])) ∧
      (∀ row ∈ answer, "prizes" ∉ row.keys) ∧
      ∃ rows, library.run author (request.selecting []) = .ok rows ∧
        List.Forall₂ (fun row row' => ∀ load ∈ request.withs, row'.get? load.1 = row.get? load.1) answer rows := by
  have hcols : ∀ c, authors.hasColumn c = author.hasColumn c := fun c => by
    rw [authors, hasColumn_table, author, hasColumn_model]
  have ht : library.store.tables.get? author.tableName = some authors := rfl
  obtain ⟨hwithout, hnone, hselect⟩ :=
    Library.run_decorates ht (sound_library.table ht) hcols distinct_request run_request
  refine ⟨hwithout, hnone ("prizes", ⟨none, none⟩) ?_ rfl, hselect [] nofun⟩
  exact List.mem_cons_of_mem _ List.mem_cons_self

end Sample

end DataModel

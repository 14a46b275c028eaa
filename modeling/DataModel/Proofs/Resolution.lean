import DataModel.Proofs.Plan

/-!
# How a request is answered

The rows of a request are read, and then each of its eager-loads puts a value onto every row. No eager-load
changes a cell that a later one reads. So the answer is the rows as they are read, each decorated by one plan
that is made from them. Everything about eager-loading is derived from this form of the answer,
`Library.resolve_succ_eq_ok_iff`.
-/

namespace DataModel

theorem exists_of_mem_forall₂ {α β : Type} {R : α → β → Prop} {as : List α} {bs : List β} {b : β}
    (h : List.Forall₂ R as bs) (hb : b ∈ bs) : ∃ a ∈ as, R a b := by
  induction h with
  | nil => simp at hb
  | cons hab _ ih =>
    rcases List.mem_cons.1 hb with rfl | hb
    · exact ⟨_, List.mem_cons_self, hab⟩
    · obtain ⟨a, ha, hr⟩ := ih hb
      exact ⟨a, List.mem_cons_of_mem _ ha, hr⟩

namespace Library

variable {l : Library}

/-- An attachment under a name that is no column of the model leaves the columns of the model alone. -/
theorem map_get?_decorate {m : Model} {a : Stitch.Attachment} {rows : List Record}
    (hname : m.hasColumn a.name = false) {c : String} (hc : m.hasColumn c = true) :
    (rows.map (Stitch.decorate [a])).map (fun r => r.get? c) = rows.map fun r => r.get? c := by
  rw [List.map_map]
  refine List.map_congr_left fun row _ => Stitch.get?_decorate_of_not_mem fun b hb hbc => ?_
  rw [List.mem_singleton.1 hb] at hbc
  rw [hbc, hc] at hname
  cases hname

theorem decorate_after {read : List Link → Reader} {chain : List Link} {m : Model} {rows : List Record}
    {loads : List (String × With Descriptor)} {plan : List Stitch.Attachment} {a : Stitch.Attachment}
    (hname : m.hasColumn a.name = false) (hp : Planned l read chain m rows loads plan) {row : Record} :
    Stitch.decorate plan (Stitch.decorate [a] row) = Stitch.decorate (a :: plan) row := by
  refine Stitch.decorate_cons fun b hb hba => ?_
  have hlocal := hp.hasColumn_key hb
  rw [hba, hname] at hlocal
  cases hlocal

/-- Putting the eager-loads onto rows one after the other decorates every row with one plan. -/
theorem foldlM_attach_eq_ok_iff {read : List Link → Reader} {chain : List Link} {m : Model}
    {loads : List (String × With Descriptor)} {rows rows' : List Record} :
    loads.foldlM (l.attach read chain m) rows = .ok rows' ↔
      ∃ plan, Planned l read chain m rows loads plan ∧ rows' = rows.map (Stitch.decorate plan) := by
  induction loads generalizing rows with
  | nil =>
    rw [List.foldlM_nil]
    refine ok_eq_ok_iff.trans ⟨fun h => ⟨[], .done, ?_⟩, ?_⟩
    · rw [h]
      exact (List.map_id rows).symm
    · rintro ⟨plan, hp, h⟩
      cases hp
      rw [h]
      exact List.map_id rows
  | cons load loads ih =>
    simp only [List.foldlM_cons, bind_eq_ok_iff, attach_eq_ok_iff, ih]
    constructor
    · rintro ⟨mid, ⟨hname, hmid⟩, plan, hp, rfl⟩
      rcases hmid with ⟨hrelation, rfl⟩ | ⟨r, other, sub, value, hl, hchain, hlocal, hforeign, hoffer, rfl⟩
      · exact ⟨plan, .skip hname hrelation hp, rfl⟩
      · -- no column of the model changed, so the plan for the rows after it is one for those before
        have hp' := hp.congr fun _ _ _ _ hc => map_get?_decorate (a := ⟨load.1, r.localKey, value⟩) hname hc
        refine ⟨_, .follow hname hl hchain hlocal hforeign hoffer hp', ?_⟩
        rw [List.map_map]
        exact List.map_congr_left fun row _ => decorate_after (a := ⟨load.1, r.localKey, value⟩) hname hp
    · rintro ⟨plan, hp, rfl⟩
      cases hp with
      | skip hname hrelation hp => exact ⟨rows, ⟨hname, Or.inl ⟨hrelation, rfl⟩⟩, plan, hp, rfl⟩
      | @follow _ _ plan r other sub value hname hl hchain hlocal hforeign hoffer hp =>
        have hp' := hp.congr fun _ _ _ _ hc =>
          (map_get?_decorate (a := ⟨load.1, r.localKey, value⟩) hname hc).symm
        refine ⟨_, ⟨hname, Or.inr ⟨_, _, _, _, hl, hchain, hlocal, hforeign, hoffer, rfl⟩⟩, _, hp', ?_⟩
        rw [List.map_map]
        exact List.map_congr_left fun row _ =>
          (decorate_after (a := ⟨load.1, r.localKey, value⟩) hname hp').symm

theorem resolve_succ (depth : Nat) (chain : List Link) (m : Model) (q : Descriptor) :
    l.resolve (depth + 1) chain m q =
      l.read m q >>= fun rows => q.withs.foldlM (l.attach (l.resolve depth) chain m) rows := by
  rw [resolve, resolveWith, read]
  simp only [bind_assoc]

/-- An answer is the rows that were read, decorated by a plan that is made for them. -/
theorem resolve_succ_eq_ok_iff {depth : Nat} {chain : List Link} {m : Model} {q : Descriptor}
    {rows : List Record} :
    l.resolve (depth + 1) chain m q = .ok rows ↔
      ∃ base plan, l.read m q = .ok base ∧
        Planned l (l.resolve depth) chain m base q.withs plan ∧ rows = base.map (Stitch.decorate plan) := by
  simp only [resolve_succ, bind_eq_ok_iff, foldlM_attach_eq_ok_iff]
  exact ⟨fun ⟨base, hb, plan, h⟩ => ⟨base, plan, hb, h⟩, fun ⟨base, plan, hb, h⟩ => ⟨base, hb, plan, h⟩⟩

theorem resolve_zero_ne_ok {chain : List Link} {m : Model} {q : Descriptor} {rows : List Record} :
    l.resolve 0 chain m q ≠ .ok rows :=
  nofun

/-- What has an answer within some depth has the same answer within a greater one. -/
theorem related_mono {read read' : Reader} (h : ∀ m q rows, read m q = .ok rows → read' m q = .ok rows)
    {m : Model} {q : Descriptor} {column : String} {keys : List Value} {rows : List Record}
    (hr : related read m q column keys = .ok rows) : related read' m q column keys = .ok rows := by
  unfold related at hr ⊢
  split
  next hk => rwa [if_pos hk] at hr
  next hk =>
    rw [if_neg hk] at hr
    exact h _ _ _ hr

theorem offer_mono {read read' : Reader} (h : ∀ m q rows, read m q = .ok rows → read' m q = .ok rows)
    {m other : Model} {relation : String} {r : Relation} {sub : Descriptor} {keys : List Value}
    {value : Option String → Option Value} (ho : l.offer read m relation r other sub keys = .ok value) :
    l.offer read' m relation r other sub keys = .ok value := by
  rw [offer_eq_ok_iff]
  cases offer_eq_ok_iff.1 ho with
  | first hk hread => exact .first hk (related_mono h hread)
  | all hk hread => exact .all hk (related_mono h hread)
  | linked hk hpivot hlinks hread => exact .linked hk hpivot hlinks (related_mono h hread)

theorem Planned.mono {read read' : List Link → Reader} {chain : List Link} {m : Model} {rows : List Record}
    {loads : List (String × With Descriptor)} {plan : List Stitch.Attachment}
    (h : ∀ chain m q rows, read chain m q = .ok rows → read' chain m q = .ok rows)
    (hp : Planned l read chain m rows loads plan) : Planned l read' chain m rows loads plan := by
  induction hp with
  | done => exact .done
  | skip hname hrelation _ ih => exact .skip hname hrelation ih
  | follow hname hload hchain hlocal hforeign hoffer _ ih =>
    exact .follow hname hload hchain hlocal hforeign (offer_mono (h _) hoffer) ih

theorem resolve_mono_succ {depth : Nat} {chain : List Link} {m : Model} {q : Descriptor} {rows : List Record}
    (h : l.resolve depth chain m q = .ok rows) : l.resolve (depth + 1) chain m q = .ok rows := by
  induction depth generalizing chain m q rows with
  | zero => exact absurd h resolve_zero_ne_ok
  | succ depth ih =>
    obtain ⟨base, plan, hb, hp, hr⟩ := resolve_succ_eq_ok_iff.1 h
    exact resolve_succ_eq_ok_iff.2 ⟨base, plan, hb, hp.mono fun _ _ _ _ => ih, hr⟩

/-- A request is answered with the same rows within every greater depth. -/
theorem resolve_mono {depth depth' : Nat} (hd : depth ≤ depth') {chain : List Link} {m : Model}
    {q : Descriptor} {rows : List Record} (h : l.resolve depth chain m q = .ok rows) :
    l.resolve depth' chain m q = .ok rows := by
  induction hd with
  | refl => exact h
  | step _ ih => exact resolve_mono_succ ih

/-- A request is answered with some rows, when the depth is large enough. -/
def Answers (l : Library) (chain : List Link) (m : Model) (q : Descriptor) (rows : List Record) : Prop :=
  ∃ depth, l.resolve depth chain m q = .ok rows

/-- A request has one answer. -/
theorem Answers.unique {chain : List Link} {m : Model} {q : Descriptor} {rows rows' : List Record}
    (h : l.Answers chain m q rows) (h' : l.Answers chain m q rows') : rows = rows' := by
  obtain ⟨depth, hd⟩ := h
  obtain ⟨depth', hd'⟩ := h'
  have hm := resolve_mono (Nat.le_max_left depth depth') hd
  have hm' := resolve_mono (Nat.le_max_right depth depth') hd'
  exact Except.ok.inj (hm.symm.trans hm')

theorem answers_of_run {m : Model} {q : Descriptor} {rows : List Record} (h : l.run m q = .ok rows) :
    l.Answers [] m q rows :=
  ⟨_, h⟩

/-- The rows of an answer have the cells of the stored rows that the request finds, under the columns that
they have at all. -/
theorem Answers.cells {chain : List Link} {m : Model} {q : Descriptor} {rows : List Record}
    (h : l.Answers chain m q rows) :
    List.Forall₂ (fun source row => ∀ c, m.hasColumn c = true → (q.columnsFor m = [] ∨ c ∈ q.columnsFor m) →
      row.cell c = source.cell c) (l.found m q) rows := by
  obtain ⟨_ | depth, h⟩ := h
  · exact absurd h resolve_zero_ne_ok
  obtain ⟨base, plan, hb, hp, rfl⟩ := resolve_succ_eq_ok_iff.1 h
  obtain ⟨t, -, -, rfl⟩ := read_eq_ok_iff.1 hb
  rw [List.map_map, List.forall₂_map_right_iff, List.forall₂_same]
  intro source _ c hc hcolumn
  rw [Function.comp_apply, Record.cell_congr (hp.get?_decorate hc _), Table.cell_project hcolumn]

/-- A row that was read holds nothing under the name of an eager-load, unless no columns were asked for. -/
theorem get?_project_kept {t : Table} {read : List Link → Reader} {chain : List Link} {m : Model}
    {q : Descriptor} {base : List Record} {plan : List Stitch.Attachment} (hcan : m.CanAsk t q)
    (hp : Planned l read chain m base q.withs plan) {load : String × With Descriptor} (hload : load ∈ q.withs)
    (source : Record) : (Table.project (q.columnsFor m) source).get? load.1 = q.kept load.1 source := by
  have hname := hp.hasColumn_name hload
  rw [Table.get?_project, Descriptor.kept, Descriptor.columnsFor, Model.withKeys_eq]
  by_cases hs : q.select = []
  · rw [if_pos hs, if_pos hs, if_pos rfl]
  rw [if_neg hs, if_neg hs, if_neg (by simp [hs]), if_neg]
  intro hmem
  rcases List.mem_append.1 hmem with hmem | hmem
  · exact Model.hasColumn_ne hname (hcan.select _ hmem) rfl
  · obtain ⟨load', hload', hr⟩ := List.mem_filterMap.1 (List.mem_filter.1 (List.mem_eraseDups.1 hmem)).1
    obtain ⟨r, hrelation, hlocal⟩ := Option.map_eq_some_iff.1 hr
    exact Model.hasColumn_ne hname (hp.hasColumn_localKey hload' hrelation) hlocal.symm

/-- What every row of an answer holds under the name of an eager-load: what the eager-load has for the key
of the row, and otherwise what the row held before. -/
theorem Answers.exists_offer {chain : List Link} {m other : Model} {q sub : Descriptor} {rows : List Record}
    {load : String × With Descriptor} {r : Relation} (h : l.Answers chain m q rows)
    (hnames : Assoc.Distinct q.withs) (hload : load ∈ q.withs) (hl : l.Loads m load r other sub) :
    ∃ depth value, other.hasColumn r.foreignKey = true ∧
      l.offer (l.resolve depth (chain ++ [⟨m.name, Descriptor.relationName load⟩])) m
        (Descriptor.relationName load) r other sub (Stitch.keysIn r.localKey rows) = .ok value ∧
      List.Forall₂ (fun source row => row.get? load.1 =
        (value (Stitch.keyAt r.localKey row)).or (q.kept load.1 source)) (l.found m q) rows := by
  obtain ⟨_ | depth, h⟩ := h
  · exact absurd h resolve_zero_ne_ok
  obtain ⟨base, plan, hb, hp, rfl⟩ := resolve_succ_eq_ok_iff.1 h
  obtain ⟨hforeign, value, ha, ho⟩ := hp.of_mem hload hl
  have hlocal : ∀ row, (Stitch.decorate plan row).get? r.localKey = row.get? r.localKey :=
    hp.get?_decorate (hp.hasColumn_localKey hload hl.relation)
  have hkeys : Stitch.keysIn r.localKey (base.map (Stitch.decorate plan)) = Stitch.keysIn r.localKey base := by
    refine Stitch.keysIn_congr ?_
    rw [List.map_map]
    exact List.map_congr_left fun row _ => hlocal row
  refine ⟨depth, value, hforeign, by rw [hkeys]; exact ho, ?_⟩
  obtain ⟨t, -, hcan, rfl⟩ := read_eq_ok_iff.1 hb
  rw [List.map_map, List.forall₂_map_right_iff, List.forall₂_same]
  intro source _
  let base := Table.project (q.columnsFor m) source
  have hget : (Stitch.decorate plan base).get? load.1 =
      (value (Stitch.keyAt r.localKey base)).or (base.get? load.1) :=
    Stitch.get?_decorate_of_mem ha (hp.names_sublist.nodup hnames)
  rw [Function.comp_apply, hget, get?_project_kept hcan hp hload, Stitch.keyAt, Stitch.keyAt, hlocal]

end Library

end DataModel

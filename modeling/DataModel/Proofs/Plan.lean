import DataModel.Proofs.Reading
import Mathlib.Data.List.Nodup

/-!
# Plans of eager-loads

An eager-load puts a value onto every row. What a row gets depends on its own key only, once the keys of all
rows are known. So the eager-loads of a request make a plan from the rows: names, each with the column whose
key decides and a value for each key (`Stitch.Attachment`).
-/

namespace DataModel

namespace Stitch

/-- What an eager-load has for rows: a name, the column whose key decides, and a value for each key, or
nothing. -/
structure Attachment where
  name : String
  localKey : String
  value : Option String → Option Value

/-- The pair that an attachment adds to a row. -/
def Attachment.pair? (a : Attachment) (row : Record) : Option (String × Value) :=
  (a.value (keyAt a.localKey row)).map fun v => (a.name, v)

/-- A row with what a plan has for it. -/
def decorate (plan : List Attachment) (row : Record) : Record :=
  row.extend (plan.filterMap fun a => a.pair? row)

theorem name_of_pair? {a : Attachment} {row : Record} {e : String × Value} (h : a.pair? row = some e) :
    e.1 = a.name := by
  obtain ⟨v, -, rfl⟩ := Option.map_eq_some_iff.1 h
  rfl

theorem pair?_congr {a : Attachment} {row other : Record}
    (h : row.get? a.localKey = other.get? a.localKey) : a.pair? row = a.pair? other := by
  rw [Attachment.pair?, keyAt, h, Attachment.pair?, keyAt]

/-- Only the names of a plan are decorated. -/
theorem get?_decorate_of_not_mem {plan : List Attachment} {row : Record} {c : String}
    (h : ∀ a ∈ plan, a.name ≠ c) : (decorate plan row).get? c = row.get? c := by
  refine Assoc.get?_extend_of_not_mem fun hc => ?_
  obtain ⟨e, he, rfl⟩ := List.mem_map.1 hc
  obtain ⟨a, ha, hp⟩ := List.mem_filterMap.1 he
  exact h a ha (name_of_pair? hp).symm

theorem keys_pairs_sublist (plan : List Attachment) (row : Record) :
    ((plan.filterMap fun a => a.pair? row).map Prod.fst).Sublist (plan.map Attachment.name) := by
  induction plan with
  | nil => exact .slnil
  | cons a plan ih =>
    rw [List.filterMap_cons, List.map_cons]
    split
    next => exact ih.cons _
    next e he =>
      rw [List.map_cons, name_of_pair? he]
      exact ih.cons_cons _

/-- Under a name that stands once in a plan a row has what the plan has for it, and otherwise what it
had. -/
theorem get?_decorate_of_mem {plan : List Attachment} {row : Record} {a : Attachment} (ha : a ∈ plan)
    (hd : (plan.map Attachment.name).Nodup) :
    (decorate plan row).get? a.name = (a.value (keyAt a.localKey row)).or (row.get? a.name) := by
  cases hv : a.value (keyAt a.localKey row) with
  | some v =>
    refine Assoc.get?_extend_of_mem ((keys_pairs_sublist plan row).nodup hd) ?_
    exact List.mem_filterMap.2 ⟨a, ha, by rw [Attachment.pair?, hv]; rfl⟩
  | none =>
    refine Assoc.get?_extend_of_not_mem fun hc => ?_
    obtain ⟨e, he, hname⟩ := List.mem_map.1 hc
    obtain ⟨b, hb, hp⟩ := List.mem_filterMap.1 he
    have hab : b = a := List.inj_on_of_nodup_map hd hb ha ((name_of_pair? hp).symm.trans hname)
    rw [hab, Attachment.pair?, hv] at hp
    cases hp

/-- The attachments of a plan may be put on one after the other, when none replaces a key that a later
one reads. -/
theorem decorate_cons {a : Attachment} {plan : List Attachment} {row : Record}
    (h : ∀ b ∈ plan, b.localKey ≠ a.name) :
    decorate plan (decorate [a] row) = decorate (a :: plan) row := by
  have hcell : ∀ b ∈ plan, (decorate [a] row).get? b.localKey = row.get? b.localKey := fun b hb =>
    get?_decorate_of_not_mem fun c hc => by
      rw [List.mem_singleton.1 hc]
      exact (h b hb).symm
  have hpairs : (plan.filterMap fun b => b.pair? (decorate [a] row)) = plan.filterMap fun b => b.pair? row :=
    List.filterMap_congr fun b hb => pair?_congr (hcell b hb)
  rw [decorate, hpairs, decorate, decorate, List.filterMap_cons, List.filterMap_cons]
  cases a.pair? row with
  | none => rfl
  | some e => rfl

theorem without_decorate {names : List String} {plan : List Attachment} (h : ∀ a ∈ plan, a.name ∈ names)
    (row : Record) : (decorate plan row).without names = row.without names := by
  refine Assoc.without_extend row fun e he => ?_
  obtain ⟨a, ha, hp⟩ := List.mem_filterMap.1 he
  rw [name_of_pair? hp]
  exact h a ha

end Stitch

/-- Where an eager-load of a model leads: its relation, the related model, and the query for the related
rows, which is its own or that of the relation. -/
structure Library.Loads (l : Library) (m : Model) (load : String × With Descriptor) (r : Relation)
    (other : Model) (sub : Descriptor) : Prop where
  relation : m.relation? (Descriptor.relationName load) = some r
  model : l.registry.get? r.model = some other
  query : sub = (load.2.query <|> r.query).getD .empty

namespace Library

variable {l : Library}

theorem Loads.unique {m : Model} {load : String × With Descriptor} {r r' : Relation} {other other' : Model}
    {sub sub' : Descriptor} (h : l.Loads m load r other sub) (h' : l.Loads m load r' other' sub') :
    r = r' ∧ other = other' ∧ sub = sub' := by
  have hr : r = r' := Option.some.inj (h.relation.symm.trans h'.relation)
  subst hr
  exact ⟨rfl, Option.some.inj (h.model.symm.trans h'.model), h.query.trans h'.query.symm⟩

/-- The related rows for some keys are read, unless there are no keys. -/
theorem related_cases {read : Reader} {m : Model} {q : Descriptor} {column : String} {keys : List Value}
    {rows : List Record} (h : related read m q column keys = .ok rows) :
    keys = [] ∧ rows = [] ∨ read m (q.forKeys column keys) = .ok rows := by
  by_cases hk : keys = []
  · subst hk
    exact Or.inl ⟨rfl, ok_eq_ok_iff.1 (h : (.ok [] : Except ModelError _) = .ok rows)⟩
  · rw [related, if_neg (by simpa using hk)] at h
    exact Or.inr h

/-- Related rows are one answer to a request for keys, if there are any. -/
theorem read_of_related {read : Reader} {m : Model} {q : Descriptor} {column : String} {keys : List Value}
    {rows : List Record} (h : related read m q column keys = .ok rows) :
    rows = [] ∨ ∃ keys', read m (q.forKeys column keys') = .ok rows :=
  (related_cases h).imp And.right fun hread => ⟨keys, hread⟩

/-- What an eager-load has for each key, when the keys of all rows are known. -/
def offer (l : Library) (read : Reader) (m : Model) (relation : String) (r : Relation) (other : Model)
    (sub : Descriptor) (keys : List Value) : Except ModelError (Option String → Option Value) :=
  match r.kind with
  | .oneToOne => do
    let children ← related read other sub r.foreignKey keys
    .ok fun k => (Stitch.withKey r.foreignKey k children).head?.map .map
  | .oneToMany => do
    let children ← related read other sub r.foreignKey keys
    .ok fun k => some (.list ((Stitch.withKey r.foreignKey k children).map .map))
  | .manyToMany => do
    let pivot ← m.pivotOf relation r
    let links ← l.links pivot keys
    let children ← related read other sub r.foreignKey (Stitch.keysIn pivot.foreignKey links)
    .ok fun k => some (.list ((Stitch.withKey pivot.localKey k links).flatMap fun link =>
      (Stitch.withKey r.foreignKey (Stitch.keyAt pivot.foreignKey link) children).map fun child =>
        .map (Stitch.inlined pivot link child)))

/-- What can be found wherever an eager-load leads can be found beforehand, since it leads to one place only. -/
theorem Loads.exists_for {α : Type} [Inhabited α] {read : Reader} {m : Model} {load : String × With Descriptor}
    {rows : List Record} {P : Relation → Model → Descriptor → (Option String → Option Value) → α → Prop}
    (h : ∀ r other sub value, l.Loads m load r other sub →
      l.offer read m (Descriptor.relationName load) r other sub (Stitch.keysIn r.localKey rows) = .ok value →
        ∃ a, P r other sub value a) :
    ∃ a, ∀ r other sub value, l.Loads m load r other sub →
      l.offer read m (Descriptor.relationName load) r other sub (Stitch.keysIn r.localKey rows) = .ok value →
        P r other sub value a := by
  by_cases hex : ∃ r other sub value, l.Loads m load r other sub ∧
      l.offer read m (Descriptor.relationName load) r other sub (Stitch.keysIn r.localKey rows) = .ok value
  · obtain ⟨r, other, sub, value, hl, ho⟩ := hex
    obtain ⟨a, ha⟩ := h r other sub value hl ho
    refine ⟨a, fun r' other' sub' value' hl' ho' => ?_⟩
    obtain ⟨rfl, rfl, rfl⟩ := hl.unique hl'
    rwa [← Except.ok.inj (ho.symm.trans ho')]
  · exact ⟨default, fun r other sub value hl ho => absurd ⟨r, other, sub, value, hl, ho⟩ hex⟩

/-- What an eager-load has for each key comes from the related rows that are read, in the way of the relation. -/
inductive Offers (l : Library) (read : Reader) (m : Model) (relation : String) (r : Relation) (other : Model)
    (sub : Descriptor) (keys : List Value) : (Option String → Option Value) → Prop
  | first {children : List Record} (hkind : r.kind = .oneToOne)
      (hread : related read other sub r.foreignKey keys = .ok children) :
      Offers l read m relation r other sub keys fun k => (Stitch.withKey r.foreignKey k children).head?.map .map
  | all {children : List Record} (hkind : r.kind = .oneToMany)
      (hread : related read other sub r.foreignKey keys = .ok children) :
      Offers l read m relation r other sub keys fun k =>
        some (.list ((Stitch.withKey r.foreignKey k children).map .map))
  | linked {pivot : Pivot} {links children : List Record} (hkind : r.kind = .manyToMany)
      (hpivot : m.pivotOf relation r = .ok pivot) (hlinks : l.links pivot keys = .ok links)
      (hread : related read other sub r.foreignKey (Stitch.keysIn pivot.foreignKey links) = .ok children) :
      Offers l read m relation r other sub keys fun k =>
        some (.list ((Stitch.withKey pivot.localKey k links).flatMap fun link =>
          (Stitch.withKey r.foreignKey (Stitch.keyAt pivot.foreignKey link) children).map fun child =>
            .map (Stitch.inlined pivot link child)))

theorem offer_eq_ok_iff {read : Reader} {m : Model} {relation : String} {r : Relation} {other : Model}
    {sub : Descriptor} {keys : List Value} {value : Option String → Option Value} :
    l.offer read m relation r other sub keys = .ok value ↔ l.Offers read m relation r other sub keys value := by
  constructor
  · intro ho
    unfold offer at ho
    cases hk : r.kind with
    | oneToOne =>
      simp only [hk, bind_eq_ok_iff, ok_eq_ok_iff] at ho
      obtain ⟨children, hread, rfl⟩ := ho
      exact .first hk hread
    | oneToMany =>
      simp only [hk, bind_eq_ok_iff, ok_eq_ok_iff] at ho
      obtain ⟨children, hread, rfl⟩ := ho
      exact .all hk hread
    | manyToMany =>
      simp only [hk, bind_eq_ok_iff, ok_eq_ok_iff] at ho
      obtain ⟨pivot, hpivot, links, hlinks, children, hread, rfl⟩ := ho
      exact .linked hk hpivot hlinks hread
  · intro ho
    cases ho with
    | first hk hread => simp only [offer, hk, bind_eq_ok_iff]; exact ⟨_, hread, rfl⟩
    | all hk hread => simp only [offer, hk, bind_eq_ok_iff]; exact ⟨_, hread, rfl⟩
    | linked hk hpivot hlinks hread =>
      simp only [offer, hk, bind_eq_ok_iff]
      exact ⟨_, hpivot, _, hlinks, _, hread, rfl⟩

theorem attachOne_eq (name localKey foreignKey : String) (children : List Record) :
    Stitch.attachOne name localKey foreignKey children =
      Stitch.decorate [⟨name, localKey, fun k => (Stitch.withKey foreignKey k children).head?.map .map⟩] := by
  funext row
  unfold Stitch.attachOne
  cases h : Stitch.withKey foreignKey (Stitch.keyAt localKey row) children with
  | nil => simp [Stitch.decorate, Stitch.Attachment.pair?, h]
  | cons child rest => simp [Stitch.decorate, Stitch.Attachment.pair?, h, Assoc.extend_cons]

/-- An eager-load decorates every row with what it has for the key of the row. -/
theorem follow_eq_ok_iff {read : Reader} {m : Model} {name relation : String} {r : Relation} {other : Model}
    {sub : Descriptor} {rows rows' : List Record} :
    l.follow read m name relation r other sub rows = .ok rows' ↔
      ∃ value, l.offer read m relation r other sub (Stitch.keysIn r.localKey rows) = .ok value ∧
        rows' = rows.map (Stitch.decorate [⟨name, r.localKey, value⟩]) := by
  unfold follow offer
  cases r.kind with
  | oneToOne =>
    simp only [bind_eq_ok_iff, ok_eq_ok_iff, attachOne_eq]
    exact ⟨fun ⟨children, hc, h⟩ => ⟨_, ⟨children, hc, rfl⟩, h⟩,
      fun ⟨_, ⟨children, hc, hv⟩, h⟩ => ⟨children, hc, by rw [h, hv]⟩⟩
  | oneToMany =>
    simp only [bind_eq_ok_iff, ok_eq_ok_iff]
    exact ⟨fun ⟨children, hc, h⟩ => ⟨_, ⟨children, hc, rfl⟩, h⟩,
      fun ⟨_, ⟨children, hc, hv⟩, h⟩ => ⟨children, hc, by rw [h, hv]; rfl⟩⟩
  | manyToMany =>
    simp only [bind_eq_ok_iff, ok_eq_ok_iff]
    exact ⟨fun ⟨pivot, hp, links, hl, children, hc, h⟩ => ⟨_, ⟨pivot, hp, links, hl, children, hc, rfl⟩, h⟩,
      fun ⟨_, ⟨pivot, hp, links, hl, children, hc, hv⟩, h⟩ =>
        ⟨pivot, hp, links, hl, children, hc, by rw [h, hv]; rfl⟩⟩

theorem requireColumn_eq_ok_iff {m : Model} {relation column : String} :
    m.requireColumn relation column = .ok () ↔ m.hasColumn column = true := by
  unfold Model.requireColumn
  by_cases h : m.hasColumn column = true <;> simp [h]

/-- The rows after an eager-load: as they were when its relation is not declared, and otherwise decorated
with what the relation has for their keys. -/
theorem attach_eq_ok_iff {read : List Link → Reader} {chain : List Link} {m : Model} {rows rows' : List Record}
    {load : String × With Descriptor} :
    l.attach read chain m rows load = .ok rows' ↔
      m.hasColumn load.1 = false ∧
        (m.relation? (Descriptor.relationName load) = none ∧ rows' = rows ∨
          ∃ r other sub value, l.Loads m load r other sub ∧
            ⟨m.name, Descriptor.relationName load⟩ ∉ chain ∧
            m.hasColumn r.localKey = true ∧ other.hasColumn r.foreignKey = true ∧
            l.offer (read (chain ++ [⟨m.name, Descriptor.relationName load⟩])) m
              (Descriptor.relationName load) r other sub (Stitch.keysIn r.localKey rows) = .ok value ∧
            rows' = rows.map (Stitch.decorate [⟨load.1, r.localKey, value⟩])) := by
  unfold attach
  cases hname : m.hasColumn load.1 with
  | true => simp
  | false =>
    simp only [Bool.false_eq_true, if_false, true_and]
    cases hr : m.relation? (Descriptor.relationName load) with
    | none =>
      -- a relation that is not declared is passed over
      rw [ok_eq_ok_iff]
      refine ⟨fun h => Or.inl ⟨rfl, h⟩, ?_⟩
      rintro (⟨-, h⟩ | ⟨r, other, sub, value, hl, -⟩)
      · exact h
      · rw [hl.relation] at hr
        cases hr
    | some r =>
      simp only [reduceCtorEq, false_and, false_or]
      by_cases hc : (⟨m.name, Descriptor.relationName load⟩ : Link) ∈ chain
      · -- a cycle is refused
        simp [hc]
      simp only [List.contains_iff_mem, hc, if_false, not_false_eq_true, true_and]
      cases ho : l.registry.get? r.model with
      | none =>
        refine ⟨nofun, ?_⟩
        rintro ⟨r', other, sub, value, hl, -⟩
        have hrr : r = r' := Option.some.inj (hr.symm.trans hl.relation)
        rw [hrr, hl.model] at ho
        cases ho
      | some other =>
        simp only [check_bind_eq_ok_iff, requireColumn_eq_ok_iff, follow_eq_ok_iff]
        constructor
        · rintro ⟨hlocal, hforeign, value, hv, h⟩
          exact ⟨r, other, _, value, ⟨hr, ho, rfl⟩, hlocal, hforeign, hv, h⟩
        · rintro ⟨r', other', sub, value, hl, hlocal, hforeign, hv, h⟩
          obtain ⟨rfl, rfl, rfl⟩ := Loads.unique (⟨hr, ho, rfl⟩ : l.Loads m load r other _) hl
          exact ⟨hlocal, hforeign, value, hv, h⟩

/-- The plan that the eager-loads of a request make for rows. One whose relation is not declared adds
nothing to it; every other one adds what it has for the keys of the rows. -/
inductive Planned (l : Library) (read : List Link → Reader) (chain : List Link) (m : Model)
    (rows : List Record) : List (String × With Descriptor) → List Stitch.Attachment → Prop
  | done : Planned l read chain m rows [] []
  | skip {load : String × With Descriptor} {loads : List (String × With Descriptor)}
      {plan : List Stitch.Attachment} (hname : m.hasColumn load.1 = false)
      (hrelation : m.relation? (Descriptor.relationName load) = none)
      (h : Planned l read chain m rows loads plan) : Planned l read chain m rows (load :: loads) plan
  | follow {load : String × With Descriptor} {loads : List (String × With Descriptor)}
      {plan : List Stitch.Attachment} {r : Relation} {other : Model} {sub : Descriptor}
      {value : Option String → Option Value} (hname : m.hasColumn load.1 = false)
      (hload : l.Loads m load r other sub) (hchain : ⟨m.name, Descriptor.relationName load⟩ ∉ chain)
      (hlocal : m.hasColumn r.localKey = true) (hforeign : other.hasColumn r.foreignKey = true)
      (hoffer : l.offer (read (chain ++ [⟨m.name, Descriptor.relationName load⟩])) m
        (Descriptor.relationName load) r other sub (Stitch.keysIn r.localKey rows) = .ok value)
      (h : Planned l read chain m rows loads plan) :
      Planned l read chain m rows (load :: loads) (⟨load.1, r.localKey, value⟩ :: plan)

namespace Planned

variable {read : List Link → Reader} {chain : List Link} {m : Model} {rows : List Record}
  {loads : List (String × With Descriptor)} {plan : List Stitch.Attachment}

/-- A plan depends on the local keys of the rows only. -/
theorem congr {others : List Record}
    (hrows : ∀ load ∈ loads, ∀ r, m.relation? (Descriptor.relationName load) = some r →
      m.hasColumn r.localKey = true →
        rows.map (fun row => row.get? r.localKey) = others.map fun row => row.get? r.localKey)
    (h : Planned l read chain m rows loads plan) : Planned l read chain m others loads plan := by
  induction h with
  | done => exact .done
  | skip hname hrelation _ ih =>
    exact .skip hname hrelation (ih fun load hmem => hrows load (List.mem_cons_of_mem _ hmem))
  | follow hname hload hchain hlocal hforeign hoffer _ ih =>
    rw [Stitch.keysIn_congr (hrows _ List.mem_cons_self _ hload.relation hlocal)] at hoffer
    exact .follow hname hload hchain hlocal hforeign hoffer
      (ih fun load hmem => hrows load (List.mem_cons_of_mem _ hmem))

theorem hasColumn_name (h : Planned l read chain m rows loads plan) {load : String × With Descriptor}
    (hmem : load ∈ loads) : m.hasColumn load.1 = false := by
  induction h with
  | done => simp at hmem
  | skip hname _ _ ih =>
    rcases List.mem_cons.1 hmem with rfl | hmem
    · exact hname
    · exact ih hmem
  | follow hname _ _ _ _ _ _ ih =>
    rcases List.mem_cons.1 hmem with rfl | hmem
    · exact hname
    · exact ih hmem

/-- The model has the local key of every relation that is loaded. -/
theorem hasColumn_localKey (h : Planned l read chain m rows loads plan) {load : String × With Descriptor}
    (hmem : load ∈ loads) {r : Relation} (hr : m.relation? (Descriptor.relationName load) = some r) :
    m.hasColumn r.localKey = true := by
  induction h with
  | done => simp at hmem
  | skip _ hrelation _ ih =>
    rcases List.mem_cons.1 hmem with rfl | hmem
    · rw [hr] at hrelation
      cases hrelation
    · exact ih hmem
  | follow _ hload _ hlocal _ _ _ ih =>
    rcases List.mem_cons.1 hmem with rfl | hmem
    · rw [Option.some.inj (hr.symm.trans hload.relation)]
      exact hlocal
    · exact ih hmem

/-- What a plan holds comes from one of its eager-loads. -/
theorem exists_load (h : Planned l read chain m rows loads plan) {a : Stitch.Attachment} (ha : a ∈ plan) :
    ∃ load ∈ loads, ∃ r other sub, l.Loads m load r other sub ∧ a.name = load.1 ∧ a.localKey = r.localKey ∧
      l.offer (read (chain ++ [⟨m.name, Descriptor.relationName load⟩])) m
        (Descriptor.relationName load) r other sub (Stitch.keysIn r.localKey rows) = .ok a.value := by
  induction h with
  | done => simp at ha
  | skip _ _ _ ih =>
    obtain ⟨load, hload, ho⟩ := ih ha
    exact ⟨load, List.mem_cons_of_mem _ hload, ho⟩
  | follow _ hload _ _ _ hoffer _ ih =>
    rcases List.mem_cons.1 ha with rfl | ha
    · exact ⟨_, List.mem_cons_self, _, _, _, hload, rfl, rfl, hoffer⟩
    · obtain ⟨load, hl, ho⟩ := ih ha
      exact ⟨load, List.mem_cons_of_mem _ hl, ho⟩

/-- The rows have the keys that a plan reads. -/
theorem hasColumn_key (h : Planned l read chain m rows loads plan) {a : Stitch.Attachment} (ha : a ∈ plan) :
    m.hasColumn a.localKey = true := by
  obtain ⟨load, hmem, r, _, _, hl, -, hlocal, -⟩ := h.exists_load ha
  rw [hlocal]
  exact h.hasColumn_localKey hmem hl.relation

theorem names_sublist (h : Planned l read chain m rows loads plan) :
    (plan.map Stitch.Attachment.name).Sublist (loads.map Prod.fst) := by
  induction h with
  | done => exact .slnil
  | skip _ _ _ ih => exact ih.cons _
  | follow _ _ _ _ _ _ _ ih => exact ih.cons_cons _

/-- What a plan holds for an eager-load that leads somewhere. -/
theorem of_mem (h : Planned l read chain m rows loads plan) {load : String × With Descriptor}
    (hmem : load ∈ loads) {r : Relation} {other : Model} {sub : Descriptor} (hl : l.Loads m load r other sub) :
    other.hasColumn r.foreignKey = true ∧ ∃ value, ⟨load.1, r.localKey, value⟩ ∈ plan ∧
      l.offer (read (chain ++ [⟨m.name, Descriptor.relationName load⟩])) m
        (Descriptor.relationName load) r other sub (Stitch.keysIn r.localKey rows) = .ok value := by
  induction h with
  | done => simp at hmem
  | skip _ hrelation _ ih =>
    rcases List.mem_cons.1 hmem with rfl | hmem
    · rw [hl.relation] at hrelation
      cases hrelation
    · exact ih hmem
  | follow _ hload _ _ hforeign hoffer _ ih =>
    rcases List.mem_cons.1 hmem with rfl | hmem
    · obtain ⟨rfl, rfl, rfl⟩ := hload.unique hl
      exact ⟨hforeign, _, List.mem_cons_self, hoffer⟩
    · obtain ⟨hforeign, value, ha, ho⟩ := ih hmem
      exact ⟨hforeign, value, List.mem_cons_of_mem _ ha, ho⟩

/-- The columns of the model stay as they are. -/
theorem get?_decorate (h : Planned l read chain m rows loads plan) {c : String} (hc : m.hasColumn c = true)
    (row : Record) : (Stitch.decorate plan row).get? c = row.get? c := by
  refine Stitch.get?_decorate_of_not_mem fun a ha hname => ?_
  obtain ⟨load, hload, _, _, _, -, hname', -⟩ := h.exists_load ha
  exact Model.hasColumn_ne (h.hasColumn_name hload) hc (hname'.symm.trans hname)

end Planned

end Library

end DataModel

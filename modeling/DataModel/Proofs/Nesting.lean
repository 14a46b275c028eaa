import DataModel.Proofs.Resolution
import DataModel.Proofs.Sample
import Mathlib.Data.Finset.Card
import Mathlib.Data.Finset.Dedup
import Mathlib.Order.WellFounded

/-!
# Nested requests come to an end

A request for related rows may load relations of its own, and the default requests of relations may load each
other without end. What ends the descent is the chain: every step down adds a link that is not in it yet, and
there are only so many links to add: `Library.Nests` is a step, `Library.budget` is what is left. So the
answer of a request does not depend on how deep it was allowed to nest, and a cycle is reported exactly as it
was walked.
-/

namespace DataModel

theorem foldlM_congr {α β ε : Type} {f g : β → α → Except ε β} {items : List α}
    (h : ∀ a ∈ items, ∀ b, f b a = g b a) (b : β) : items.foldlM f b = items.foldlM g b := by
  induction items generalizing b with
  | nil => rfl
  | cons a items ih =>
    rw [List.foldlM_cons, List.foldlM_cons, h a List.mem_cons_self]
    exact bind_congr fun c => ih (fun d hd => h d (List.mem_cons_of_mem _ hd)) c

/-- A fold fails when one of its steps does. -/
theorem exists_of_foldlM_eq_error {α β ε : Type} {f : β → α → Except ε β} {items : List α} {b : β} {e : ε}
    (h : items.foldlM f b = .error e) : ∃ a ∈ items, ∃ c, f c a = .error e := by
  induction items generalizing b with
  | nil => cases h
  | cons a items ih =>
    rw [List.foldlM_cons, bind_eq_error_iff] at h
    rcases h with h | ⟨c, -, h⟩
    · exact ⟨a, List.mem_cons_self, b, h⟩
    · obtain ⟨d, hd, hf⟩ := ih h
      exact ⟨d, List.mem_cons_of_mem _ hd, hf⟩

namespace Link

/-- Links are told apart by their texts when the names of their models have no dot. -/
theorem text_inj {a b : Link} (ha : '.' ∉ a.model.toList) (hb : '.' ∉ b.model.toList)
    (h : a.text = b.text) : a = b := by
  have hchars : a.model.toList ++ '.' :: a.relation.toList = b.model.toList ++ '.' :: b.relation.toList := by
    simpa [text] using congrArg String.toList h
  -- the first dot stands right after the name of the model
  have hlength : a.model.toList.length = b.model.toList.length := by
    have hdot := congrArg (List.idxOf '.') hchars
    simpa [List.idxOf_append_of_notMem ha, List.idxOf_append_of_notMem hb] using hdot
  obtain ⟨hmodel, hrelation⟩ := List.append_inj hchars hlength
  have hr : a.relation = b.relation := String.toList_inj.1 (List.cons.inj hrelation).2
  cases a
  cases b
  rw [mk.injEq]
  exact ⟨String.toList_inj.1 hmodel, hr⟩

end Link

namespace Library

variable {l : Library}

/-- A request on the way down the eager-loads: the relations followed so far, the model and the request. -/
structure Call where
  chain : List Link
  model : Model
  request : Descriptor

/-- The link that an eager-load of a request follows. -/
def Call.link (c : Call) (load : String × With Descriptor) : Link :=
  ⟨c.model.name, Descriptor.relationName load⟩

/-- Whether a request makes another one: an eager-load leads there by a relation that is not in the chain.
The keys may be any. -/
inductive Nests (l : Library) (c : Call) : Call → Prop
  | follow {load : String × With Descriptor} {r : Relation} {other : Model} {sub : Descriptor}
      (keys : List Value) (hload : load ∈ c.request.withs) (hl : l.Loads c.model load r other sub)
      (hchain : c.link load ∉ c.chain) :
      Nests l c ⟨c.chain ++ [c.link load], other, sub.forKeys r.foreignKey keys⟩

/-- The links that models declare. -/
def declaredBy (models : List Model) : Finset Link :=
  (models.flatMap linksOf).toFinset

/-- The links that may still be added to the chain of a request. -/
def budget (l : Library) (c : Call) : Nat :=
  (declaredBy (c.model :: l.registry.models.map Prod.snd) \ c.chain.toFinset).card

theorem mem_declaredBy {models : List Model} {e : Link} :
    e ∈ declaredBy models ↔ ∃ m ∈ models, ∃ name r, (name, r) ∈ m.declared.relations ∧ e = ⟨m.name, name⟩ := by
  simp only [declaredBy, List.mem_toFinset, List.mem_flatMap, linksOf, List.mem_map, Prod.exists, eq_comm]

theorem Loads.mem_declaredBy {m : Model} {load : String × With Descriptor} {r : Relation} {other : Model}
    {sub : Descriptor} (h : l.Loads m load r other sub) {models : List Model} (hm : m ∈ models) :
    ⟨m.name, Descriptor.relationName load⟩ ∈ declaredBy models :=
  Library.mem_declaredBy.2 ⟨m, hm, _, r, Assoc.mem_of_get? h.relation, rfl⟩

namespace Nests

variable {c c' : Call}

/-- Every step down uses up a link. -/
theorem budget_lt (h : l.Nests c c') : l.budget c' < l.budget c := by
  obtain @⟨load, r, other, sub, keys, hload, hl, hchain⟩ := h
  have hother : other ∈ l.registry.models.map Prod.snd :=
    List.mem_map.2 ⟨(r.model, other), Assoc.mem_of_get? hl.model, rfl⟩
  have hlink : c.link load ∈ declaredBy (c.model :: l.registry.models.map Prod.snd) :=
    hl.mem_declaredBy List.mem_cons_self
  refine Finset.card_lt_card ((Finset.ssubset_iff_of_subset ?_).2 ⟨c.link load, ?_, ?_⟩)
  · -- the related model is one of the registry, so it declares no link that was not there before
    intro e he
    rw [Finset.mem_sdiff, Library.mem_declaredBy] at he ⊢
    obtain ⟨⟨m, hm, hdeclared⟩, hnew⟩ := he
    refine ⟨⟨m, ?_, hdeclared⟩, fun hmem => hnew ?_⟩
    · rcases List.mem_cons.1 hm with rfl | hm
      · exact List.mem_cons_of_mem _ hother
      · exact List.mem_cons_of_mem _ hm
    · rw [List.mem_toFinset] at hmem ⊢
      exact List.mem_append_left _ hmem
  · rw [Finset.mem_sdiff, List.mem_toFinset]
    exact ⟨hlink, hchain⟩
  · simp

theorem nodup (h : l.Nests c c') (hc : c.chain.Nodup) : c'.chain.Nodup := by
  obtain @⟨load, r, other, sub, keys, hload, hl, hchain⟩ := h
  exact List.concat_eq_append ▸ hc.concat hchain

theorem wellFounded (l : Library) : WellFounded fun c' c => l.Nests c c' :=
  Subrelation.wf (fun h => h.budget_lt) (measure l.budget).wf

end Nests

/-- Whether a computation does not fail with a cycle. -/
def Acyclic {α : Type} (x : Except ModelError α) : Prop :=
  ∀ reported, x ≠ .error (.relationCycle reported)

namespace Acyclic

theorem ok {α : Type} (a : α) : Acyclic (.ok a) :=
  nofun

theorem bind {α β : Type} {x : Except ModelError α} {f : α → Except ModelError β} (hx : Acyclic x)
    (hf : ∀ a, Acyclic (f a)) : Acyclic (x >>= f) := by
  intro reported h
  rcases bind_eq_error_iff.1 h with h | ⟨a, -, h⟩
  · exact hx reported h
  · exact hf a reported h

theorem of_error {α β : Type} {x : Except ModelError α} {e : ModelError} (hx : Acyclic x) (h : x = .error e) :
    Acyclic (.error e : Except ModelError β) := by
  intro reported he
  cases he
  exact hx reported h

theorem forM {α : Type} {f : α → Except ModelError Unit} (hf : ∀ a, Acyclic (f a)) (items : List α) :
    Acyclic (items.forM f) := by
  induction items with
  | nil => exact ok ()
  | cons a items ih => exact (hf a).bind fun _ => ih

theorem ofStore {α : Type} (x : Except StoreError α) : Acyclic (Library.ofStore x) := by
  cases x <;> nofun

theorem checkColumn (m : Model) (column : String) : Acyclic (m.checkColumn column) := by
  unfold Model.checkColumn
  split <;> nofun

mutual

theorem checkWhere (m : Model) (w : Where) : Acyclic (m.checkWhere w) := by
  cases w with
  | leaf method column op value =>
    rw [Model.checkWhere]
    exact checkColumn m column
  | group method wheres =>
    rw [Model.checkWhere]
    exact checkWheres m wheres

theorem checkWheres (m : Model) (ws : List Where) : Acyclic (m.checkWheres ws) := by
  cases ws with
  | nil =>
    rw [Model.checkWheres]
    exact ok ()
  | cons w ws =>
    rw [Model.checkWheres]
    split
    · exact checkWheres m ws
    next h => exact (checkWhere m w).of_error h

end

theorem requireColumn (m : Model) (relation column : String) : Acyclic (m.requireColumn relation column) := by
  unfold Model.requireColumn
  split <;> nofun

theorem pivotOf (m : Model) (name : String) (r : Relation) : Acyclic (m.pivotOf name r) := by
  unfold Model.pivotOf
  split
  · nofun
  split
  · nofun
  split <;> nofun

theorem links (l : Library) (pivot : Pivot) (keys : List Value) : Acyclic (l.links pivot keys) := by
  unfold Library.links
  split
  · exact ok []
  · exact ofStore _

theorem read (l : Library) (m : Model) (q : Descriptor) : Acyclic (l.read m q) := by
  refine bind ?_ fun selection => ofStore _
  refine (forM (checkColumn m) _).bind fun _ => (forM (fun o : Order => checkColumn m o.column) _).bind fun _ => ?_
  exact ((checkWheres m _).bind fun _ => ok _).bind fun _ => ok _

end Acyclic

/-- What an eager-load comes to: a cycle, related rows that are asked for, or something that neither is a
cycle nor asks for rows. -/
theorem attach_cases (c : Call) (rows : List Record) (load : String × With Descriptor) :
    (∃ result, Acyclic result ∧ ∀ read, l.attach read c.chain c.model rows load = result) ∨
      (c.model.relation? (Descriptor.relationName load)).isSome = true ∧ c.link load ∈ c.chain ∧
        (∀ read, l.attach read c.chain c.model rows load =
          .error (.relationCycle ((c.chain ++ [c.link load]).map Link.text))) ∨
      ∃ r other sub, l.Loads c.model load r other sub ∧ c.link load ∉ c.chain ∧
        ∀ read, l.attach read c.chain c.model rows load =
          l.follow (read (c.chain ++ [c.link load])) c.model load.1 (Descriptor.relationName load) r other sub rows := by
  unfold attach
  cases hname : c.model.hasColumn load.1 with
  | true => exact Or.inl ⟨.error (.schema (.collision load.1 c.model.name)), nofun, fun _ => if_pos rfl⟩
  | false =>
    simp only [Bool.false_eq_true, if_false]
    cases hr : c.model.relation? (Descriptor.relationName load) with
    | none => exact Or.inl ⟨.ok rows, nofun, fun _ => rfl⟩
    | some r =>
      by_cases hchain : c.link load ∈ c.chain
      · exact Or.inr (Or.inl ⟨rfl, hchain, fun _ => if_pos (List.contains_iff_mem.2 hchain)⟩)
      simp only [show c.chain.contains ⟨c.model.name, Descriptor.relationName load⟩ = false by
        simpa [Call.link] using hchain, Bool.false_eq_true, if_false]
      cases ho : l.registry.get? r.model with
      | none =>
        exact Or.inl ⟨.error (.schema (.unknownModel c.model.name (Descriptor.relationName load) r.model)),
          nofun, fun _ => rfl⟩
      | some other =>
        dsimp only
        cases hlocal : c.model.requireColumn (Descriptor.relationName load) r.localKey with
        | error e => exact Or.inl ⟨.error e, (Acyclic.requireColumn _ _ _).of_error hlocal, fun _ => rfl⟩
        | ok _ =>
          cases hforeign : other.requireColumn (Descriptor.relationName load) r.foreignKey with
          | error e => exact Or.inl ⟨.error e, (Acyclic.requireColumn _ _ _).of_error hforeign, fun _ => rfl⟩
          | ok _ => exact Or.inr (Or.inr ⟨r, other, _, ⟨hr, ho, rfl⟩, hchain, fun _ => rfl⟩)

/-- The rows of a relation depend on the answers for the related model only. -/
theorem follow_congr {read read' : Reader} {m : Model} {name relation : String} {r : Relation} {other : Model}
    {sub : Descriptor} (h : ∀ keys, read other (sub.forKeys r.foreignKey keys) = read' other (sub.forKeys r.foreignKey keys))
    (rows : List Record) :
    l.follow read m name relation r other sub rows = l.follow read' m name relation r other sub rows := by
  have hrelated : related read other sub r.foreignKey = related read' other sub r.foreignKey := by
    funext keys
    unfold related
    rw [h]
  unfold follow
  rw [hrelated]

theorem related_eq_cycle {read : Reader} {m : Model} {q : Descriptor} {column : String} {keys : List Value}
    {reported : List String} (h : related read m q column keys = .error (.relationCycle reported)) :
    read m (q.forKeys column keys) = .error (.relationCycle reported) := by
  unfold related at h
  split at h
  · cases h
  · exact h

/-- The rows of a relation fail with a cycle only when the request for the related rows does. -/
theorem exists_of_follow_eq_cycle {read : Reader} {m : Model} {name relation : String} {r : Relation}
    {other : Model} {sub : Descriptor} {rows : List Record} {reported : List String}
    (h : l.follow read m name relation r other sub rows = .error (.relationCycle reported)) :
    ∃ keys, read other (sub.forKeys r.foreignKey keys) = .error (.relationCycle reported) := by
  unfold follow at h
  cases hk : r.kind with
  | oneToOne =>
    simp only [hk, bind_eq_error_iff, reduceCtorEq, and_false, exists_false, or_false] at h
    exact ⟨_, related_eq_cycle h⟩
  | oneToMany =>
    simp only [hk, bind_eq_error_iff, reduceCtorEq, and_false, exists_false, or_false] at h
    exact ⟨_, related_eq_cycle h⟩
  | manyToMany =>
    simp only [hk, bind_eq_error_iff, reduceCtorEq, and_false, exists_false, or_false] at h
    rcases h with h | ⟨pivot, -, h | ⟨links, -, h⟩⟩
    · exact absurd h (Acyclic.pivotOf _ _ _ _)
    · exact absurd h (Acyclic.links _ _ _ _)
    · exact ⟨_, related_eq_cycle h⟩

/-- Answering a request asks for the answers of nested requests only. -/
theorem resolveWith_congr {read read' : List Link → Reader} {c : Call}
    (h : ∀ c', l.Nests c c' → read c'.chain c'.model c'.request = read' c'.chain c'.model c'.request) :
    l.resolveWith read c.chain c.model c.request = l.resolveWith read' c.chain c.model c.request := by
  unfold resolveWith
  refine bind_congr fun selection => bind_congr fun rows => ?_
  refine foldlM_congr (fun load hload rows => ?_) rows
  rcases attach_cases (l := l) c rows load with ⟨result, -, ha⟩ | ⟨-, -, ha⟩ | ⟨r, other, sub, hl, hchain, ha⟩
  · rw [ha, ha]
  · rw [ha, ha]
  · rw [ha, ha]
    exact follow_congr (fun keys => h _ (.follow keys hload hl hchain)) rows

/-- The depth makes no difference once it is larger than the number of links that may be added. -/
theorem resolve_eq {depth depth' : Nat} {c : Call} (hd : l.budget c < depth) (hd' : l.budget c < depth') :
    l.resolve depth c.chain c.model c.request = l.resolve depth' c.chain c.model c.request := by
  induction depth generalizing depth' c with
  | zero => exact absurd hd (Nat.not_lt_zero _)
  | succ depth ih =>
    cases depth' with
    | zero => exact absurd hd' (Nat.not_lt_zero _)
    | succ depth' =>
      -- a nested request has fewer links left to add, so the smaller depths are large enough for it
      refine resolveWith_congr fun c' hc => ?_
      have hlt := hc.budget_lt
      exact ih (by omega) (by omega)

/-- The depth that requests to a model are given is large enough, whatever the chain. -/
theorem budget_lt_depth (chain : List Link) (m : Model) (q : Descriptor) :
    l.budget ⟨chain, m, q⟩ < l.depth m := by
  have hcard : l.budget ⟨chain, m, q⟩ ≤ ((m :: l.registry.models.map Prod.snd).flatMap linksOf).length :=
    (Finset.card_le_card Finset.sdiff_subset).trans (List.toFinset_card_le _)
  rw [List.flatMap_cons, List.flatMap_map, List.length_append] at hcard
  rw [depth, List.length_append]
  omega

/-- Links that lead from one model to another: each names a relation that is declared on its model and
leads to the model of the next one. -/
inductive Leads (l : Library) (m : Model) : List Link → Model → Prop
  | here : Leads l m [] m
  | step {links : List Link} {other target : Model} {name : String} {r : Relation} (h : Leads l m links other)
      (hr : other.relation? name = some r) (ho : l.registry.get? r.model = some target) :
      Leads l m (links ++ [⟨other.name, name⟩]) target

/-- A reported cycle was walked: its links lead from the first model on, no link but the last comes twice, and
the last is one of those before it. -/
structure Walked (l : Library) (m : Model) (before : List Link) (last : Link) : Prop where
  nodup : before.Nodup
  again : before.count last = 1
  leads : ∃ target, l.Leads m before target ∧ last.model = target.name ∧
    (target.relation? last.relation).isSome = true

/-- A cycle that comes from a request on the way down continues the chain of the request. -/
theorem exists_walked {depth : Nat} {m : Model} {c : Call} {reported : List String}
    (hd : l.budget c < depth) (hchain : c.chain.Nodup) (hleads : l.Leads m c.chain c.model)
    (h : l.resolve depth c.chain c.model c.request = .error (.relationCycle reported)) :
    ∃ before last, reported = (before ++ [last]).map Link.text ∧ l.Walked m before last := by
  induction depth generalizing c with
  | zero => exact absurd hd (Nat.not_lt_zero _)
  | succ depth ih =>
    rw [resolve_succ, bind_eq_error_iff] at h
    rcases h with h | ⟨rows, -, h⟩
    · exact absurd h (Acyclic.read l _ _ _)
    obtain ⟨load, hload, rows', h⟩ := exists_of_foldlM_eq_error h
    rcases attach_cases (l := l) c rows' load with
      ⟨result, hne, ha⟩ | ⟨hrelation, hmem, ha⟩ | ⟨r, other, sub, hl, hnew, ha⟩
    · exact absurd ((ha _).symm.trans h) (hne reported)
    · -- the link stands in the chain already, and the chain was walked
      rw [ha, Except.error.injEq, ModelError.relationCycle.injEq] at h
      exact ⟨c.chain, c.link load, h.symm, hchain, List.count_eq_one_of_mem hchain hmem,
        c.model, hleads, rfl, hrelation⟩
    · rw [ha] at h
      obtain ⟨keys, h⟩ := exists_of_follow_eq_cycle h
      have hnest : l.Nests c ⟨c.chain ++ [c.link load], other, sub.forKeys r.foreignKey keys⟩ :=
        .follow keys hload hl hnew
      have hlt := hnest.budget_lt
      exact ih (by omega) (hnest.nodup hchain) (hleads.step hl.relation hl.model) h

/-- The links that a path of nested requests follows are declared by the models on it, and no link comes
twice. -/
theorem exists_links {c : Call} {path : List Call} (h : (c :: path).IsChain l.Nests) (hc : c.chain.Nodup) :
    ∃ links : List Link, links.length = path.length ∧ (c.chain ++ links).Nodup ∧
      ∀ e ∈ links, e ∈ declaredBy ((c :: path).map Call.model) := by
  induction path generalizing c with
  | nil => exact ⟨[], rfl, by simpa using hc, nofun⟩
  | cons d path ih =>
    obtain ⟨hstep, hrest⟩ := List.isChain_cons_cons.1 h
    obtain ⟨links, hlength, hnodup, hdeclared⟩ := ih hrest (hstep.nodup hc)
    obtain @⟨load, r, other, sub, keys, hload, hl, hnew⟩ := hstep
    refine ⟨c.link load :: links, by simp [hlength], by simpa using hnodup, ?_⟩
    rw [List.forall_mem_cons]
    refine ⟨hl.mem_declaredBy List.mem_cons_self, fun e he => ?_⟩
    obtain ⟨m, hm, hmem⟩ := mem_declaredBy.1 (hdeclared e he)
    exact mem_declaredBy.2 ⟨m, List.mem_cons_of_mem _ hm, hmem⟩

/-- Whether requests come to an end: answering one asks for the answers of nested ones only, there is no
endless descent through nested requests, and so the recursion, which has no bound of its own, has exactly one
solution, by which requests are answered. -/
structure Terminates (l : Library) : Prop where
  asks : ∀ (read read' : List Link → Reader) (c : Call),
    (∀ c', l.Nests c c' → read c'.chain c'.model c'.request = read' c'.chain c'.model c'.request) →
      l.resolveWith read c.chain c.model c.request = l.resolveWith read' c.chain c.model c.request
  ends : WellFounded fun c' c => l.Nests c c'
  solved : ∃ answer : List Link → Reader, answer = l.resolveWith answer ∧
    (∀ other : List Link → Reader, other = l.resolveWith other → other = answer) ∧
      ∀ m q, l.run m q = answer [] m q

/-- Two solutions of the recursion are the same, by induction on the nested requests. -/
theorem solution_unique {answer other : List Link → Reader} (ha : answer = l.resolveWith answer)
    (ho : other = l.resolveWith other) : other = answer := by
  funext chain m q
  have hcall : ∀ c : Call, other c.chain c.model c.request = answer c.chain c.model c.request := by
    intro c
    induction c using (Nests.wellFounded l).induction with
    | _ c ih =>
      rw [ha, ho]
      exact resolveWith_congr ih
  exact hcall ⟨chain, m, q⟩

/-- A request nested below others is answered in full: the depth it is left with is large enough. -/
theorem resolve_solves : (fun chain m q => l.resolve (l.depth m) chain m q) =
    l.resolveWith fun chain m q => l.resolve (l.depth m) chain m q := by
  funext chain m q
  have hd := l.budget_lt_depth chain m q
  refine (resolve_eq hd (Nat.lt_succ_self _)).trans (resolveWith_congr fun c' hc => ?_)
  exact resolve_eq (c := c') hc.budget_lt (l.budget_lt_depth _ _ _)

theorem terminates (l : Library) : l.Terminates where
  asks _ _ _ h := resolveWith_congr h
  ends := Nests.wellFounded l
  solved := ⟨_, resolve_solves, fun _ ho => solution_unique resolve_solves ho, fun _ _ => rfl⟩

/-- Requests come to an end. No path of nested requests is longer than one more than there are links declared
by the models on it. And a cycle is reported as it was walked; its texts tell its links apart when no name of a
model has a dot, and need not when one has (`Sample.dotted_texts_coincide`). -/
theorem resolution_terminates (l : Library) :
    l.Terminates ∧
      (∀ (m : Model) (q : Descriptor) (path : List Call), (⟨[], m, q⟩ :: path).IsChain l.Nests →
        (⟨[], m, q⟩ :: path : List Call).length ≤ (declaredBy (m :: path.map Call.model)).card + 1) ∧
      ∀ (m : Model) (q : Descriptor) (reported : List String), l.run m q = .error (.relationCycle reported) →
        2 ≤ reported.length ∧ ∃ before last, reported = (before ++ [last]).map Link.text ∧
          l.Walked m before last ∧
            ((∀ e ∈ before, '.' ∉ e.model.toList) →
              reported.dropLast.Nodup ∧ reported.dropLast.count last.text = 1) := by
  refine ⟨l.terminates, ?_, ?_⟩
  · intro m q path hpath
    obtain ⟨links, hlength, hnodup, hdeclared⟩ := exists_links hpath List.nodup_nil
    have hcard : links.toFinset.card ≤ (declaredBy (m :: path.map Call.model)).card :=
      Finset.card_le_card fun e he => hdeclared e (List.mem_toFinset.1 he)
    rw [List.toFinset_card_of_nodup (by simpa using hnodup), hlength] at hcard
    exact Nat.succ_le_succ hcard
  · intro m q reported h
    obtain ⟨before, last, rfl, hwalked⟩ :=
      exists_walked (l.budget_lt_depth [] m q) List.nodup_nil .here h
    have hlast : last ∈ before := List.count_pos_iff.1 (by rw [hwalked.again]; exact Nat.one_pos)
    refine ⟨?_, before, last, rfl, hwalked, fun hdots => ?_⟩
    · have hpos := List.length_pos_of_mem hlast
      rw [List.length_map, List.length_append, List.length_singleton]
      omega
    · have hnodup : (before.map Link.text).Nodup :=
        hwalked.nodup.map_on fun a ha b hb hab => Link.text_inj (hdots a ha) (hdots b hb) hab
      rw [List.map_append, List.map_singleton, List.dropLast_concat]
      exact ⟨hnodup, List.count_eq_one_of_mem hnodup (List.mem_map_of_mem hlast)⟩

end Library

namespace Sample

/-- The request for nodes with their parents. -/
def parentRequest : Descriptor :=
  { Descriptor.empty with withs := [("parent", ⟨none, none⟩)] }

/-- The parent of a node, with its own parent. -/
def above : Relation :=
  ⟨.oneToOne, "node", "parent_id", "id", none, some parentRequest⟩

def node : Model :=
  model "node" "nodes" ["id", "parent_id"] [("parent", above)] false

/-- A node above another one. -/
def tree : Library :=
  ⟨⟨[("node", node)]⟩, ⟨[("nodes", table ["id", "parent_id"] [[.int 1, .null], [.int 2, .int 1]])]⟩⟩

/-- A relation that loads itself ends in the cycle of its one link. -/
theorem parent_cycle_walked :
    tree.run node parentRequest = .error (.relationCycle ["node.parent", "node.parent"]) ∧
      ∃ before last, ["node.parent", "node.parent"] = (before ++ [last]).map Link.text ∧
        tree.Walked node before last := by
  have hrun : tree.run node parentRequest = .error (.relationCycle ["node.parent", "node.parent"]) := rfl
  obtain ⟨-, before, last, htexts, hwalked, -⟩ := (Library.resolution_terminates tree).2.2 _ _ _ hrun
  exact ⟨hrun, before, last, htexts, hwalked⟩

/-- The relation of a node to its parent among the leaves, and from there on to that one's parent among all nodes. -/
def leafParent : Relation :=
  ⟨.oneToOne, "node.leaf", "parent_id", "id", none,
    some { Descriptor.empty with withs := [("parent", ⟨none, none⟩)] }⟩

/-- The request for nodes with their parents among the leaves. -/
def leafRequest : Descriptor :=
  { Descriptor.empty with withs := [("leaf", ⟨some "leaf.parent", none⟩)] }

def dottedNode : Model :=
  model "node" "nodes" ["id", "parent_id"] [("leaf.parent", leafParent)] false

def leaf : Model :=
  model "node.leaf" "nodes" ["id", "parent_id"]
    [("parent", ⟨.oneToOne, "node", "parent_id", "id", none, some leafRequest⟩)] false

/-- Three nodes above each other, in models whose names have dots. -/
def dottedTree : Library :=
  ⟨⟨[("node", dottedNode), ("node.leaf", leaf)]⟩,
    ⟨[("nodes", table ["id", "parent_id"] [[.int 1, .null], [.int 2, .int 1], [.int 3, .int 2]])]⟩⟩

/-- Where a name of a model has a dot, different links of a cycle can have one text: of the two links that are walked
here before the first comes again, one is the relation `leaf.parent` of `node`, the other one the relation `parent`
of `node.leaf`. -/
theorem dotted_texts_coincide :
    dottedTree.run dottedNode leafRequest =
        .error (.relationCycle ["node.leaf.parent", "node.leaf.parent", "node.leaf.parent"]) ∧
      dottedTree.Walked dottedNode [⟨"node", "leaf.parent"⟩, ⟨"node.leaf", "parent"⟩] ⟨"node", "leaf.parent"⟩ ∧
      Link.text ⟨"node", "leaf.parent"⟩ = Link.text ⟨"node.leaf", "parent"⟩ := by
  refine ⟨rfl, ⟨by decide, by decide, dottedNode, ?_, rfl, rfl⟩, rfl⟩
  have hleaf : dottedTree.Leads dottedNode ([] ++ [⟨"node", "leaf.parent"⟩]) leaf := .step .here rfl rfl
  exact hleaf.step rfl rfl

end Sample

end DataModel

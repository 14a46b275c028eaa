import DataModel.Proofs.Conversion
import DataModel.Proofs.JsonText
import DataModel.Proofs.Record
import DataModel.Query.Descriptor.Json

/-!
# Requests handed on as JSON

The JSON tree of a request is read as the request. So is its JSON text, as long as no more than 127 lists and objects
nest in it; a request whose text is deeper is refused and never taken for another.

A request here is one without numbers with a fraction, in which a map has each key once and the eager-loads stand in
the order of their names.
-/

namespace DataModel

namespace Json

variable {α : Type}

theorem parts?_obj {names : List String} {members : List (String × Json)} (h : (members.map Prod.fst).Nodup) :
    parts? names (.obj members) = some members := by
  have honce : ∀ name, isRepeated members name = false := by
    intro name
    have hcount : (members.filter fun m => m.1 = name).length = (members.map Prod.fst).count name := by
      rw [List.count, List.countP_map, List.countP_eq_length_filter]
      rfl
    have hle := List.nodup_iff_count_le_one.1 h name
    rw [isRepeated, hcount, decide_eq_false_iff_not]
    omega
  have hnone : names.any (isRepeated members) = false := by
    rw [List.any_eq_false]
    intro name _
    rw [honce name]
    exact Bool.false_ne_true
  rw [parts?, hnone]
  rfl

theorem items?_arr_map {β : Type} {read : Json → Option α} {tree : β → Json} {value : β → α} {bs : List β}
    (h : ∀ b ∈ bs, read (tree b) = some (value b)) : items? read (.arr (bs.map tree)) = some (bs.map value) := by
  show (bs.map tree).mapM read = _
  induction bs with
  | nil => rfl
  | cons b bs ih =>
    rw [List.forall_mem_cons] at h
    rw [List.map_cons, List.mapM_cons, h.1, ih h.2]
    rfl

/-- Reading succeeds only when all of the tree is readable. -/
def Strict (read : Json → Option α) (j : Json) : Prop :=
  ∀ a, read j = some a → j.readable = true

theorem strict_text? (j : Json) : Strict text? j := by
  intro s h
  cases j with
  | str t => rfl
  | _ => cases h

theorem strict_optional? {read : Json → Option α} {j : Json} (h : Strict read j) : Strict (optional? read) j := by
  intro a ha
  rw [optional?.eq_def] at ha
  split at ha
  next => rfl
  next =>
    obtain ⟨b, hb, -⟩ := Option.map_eq_some_iff.1 ha
    exact h b hb

theorem strict_items? {read : Json → Option α} {j : Json} (h : ∀ items, j = .arr items → ∀ i ∈ items, Strict read i) :
    Strict (items? read) j := by
  intro as has
  cases j with
  | arr items =>
    replace h := h items rfl
    replace has : items.mapM read = some as := has
    show readableItems items = true
    induction items generalizing as with
    | nil => rfl
    | cons i items ih =>
      rw [List.forall_mem_cons] at h
      rw [List.mapM_cons] at has
      obtain ⟨a, ha, hrest⟩ := Option.bind_eq_some_iff.1 has
      obtain ⟨rest, hrest, -⟩ := Option.bind_eq_some_iff.1 hrest
      rw [readableItems, h.1 a ha, ih rest h.2 hrest, Bool.and_true]
  | _ => cases has

theorem cappedItems_map {β : Type} (level : Nat) (tree : β → Json) (bs : List β) :
    cappedItems level (bs.map tree) = bs.map fun b => capped level (tree b) := by
  induction bs with
  | nil => rfl
  | cons b bs ih => rw [List.map_cons, cappedItems, ih, List.map_cons]

/-- Of a tree that is cut off at the root nothing is read. -/
theorem strict_capped_obj {read : Json → Option α} {level : Nat} {members : List (String × Json)}
    (hcut : read .unreadable = none) (h : Strict read (.obj (cappedMembers (level + 1) members))) :
    Strict read (capped level (.obj members)) := by
  rw [capped]
  split
  next =>
    intro a ha
    rw [hcut] at ha
    cases ha
  next => exact h

theorem strict_items?_capped {β : Type} {read : Json → Option α} {tree : β → Json}
    (bs : List β) (level : Nat) (h : ∀ b level, Strict read (capped level (tree b))) :
    Strict (items? read) (capped level (.arr (bs.map tree))) := by
  apply strict_items?
  intro items hitems i hi
  rw [capped, cappedItems_map] at hitems
  split at hitems
  next => cases hitems
  next =>
    cases hitems
    obtain ⟨b, -, rfl⟩ := List.mem_map.1 hi
    exact h b _

theorem areExact_map {β : Type} {tree : β → Json} (bs : List β) (h : ∀ b, (tree b).isExact = true) :
    areExact (bs.map tree) = true := by
  induction bs with
  | nil => rfl
  | cons b bs ih => rw [List.map_cons, areExact, h b, ih, Bool.and_true]

theorem isExact_ofText? (s : Option String) : (ofText? s).isExact = true := by
  cases s <;> rfl

theorem readable_ofText? (s : Option String) (level : Nat) : (capped level (ofText? s)).readable = true := by
  cases s <;> rfl

end Json

namespace Value

mutual

/-- Whether JSON can say all of a value: there is no number with a fraction, and a map has each key once. -/
def isExact : Value → Bool
  | float _ => false
  | list items => areExact items
  | map entries => decide (entries.map Prod.fst).Nodup && haveExact entries
  | null | bool _ | int _ | text _ => true

def areExact : List Value → Bool
  | [] => true
  | v :: vs => isExact v && areExact vs

def haveExact : List (String × Value) → Bool
  | [] => true
  | (_, v) :: es => isExact v && haveExact es

end

mutual

theorem isFinite_of_isExact {v : Value} (h : v.isExact = true) : v.isFinite = true := by
  cases v with
  | float x => cases h
  | list items => exact areFinite_of_areExact h
  | map entries =>
    obtain ⟨hkeys, hentries⟩ := Bool.and_eq_true_iff.1 h
    exact Bool.and_eq_true_iff.2 ⟨hkeys, haveFinite_of_haveExact hentries⟩
  | _ => rfl

theorem areFinite_of_areExact {vs : List Value} (h : areExact vs = true) : areFinite vs = true := by
  cases vs with
  | nil => rfl
  | cons v vs =>
    obtain ⟨hv, hvs⟩ := Bool.and_eq_true_iff.1 h
    exact Bool.and_eq_true_iff.2 ⟨isFinite_of_isExact hv, areFinite_of_areExact hvs⟩

theorem haveFinite_of_haveExact {es : List (String × Value)} (h : haveExact es = true) : haveFinite es = true := by
  cases es with
  | nil => rfl
  | cons e es =>
    obtain ⟨hv, hes⟩ := Bool.and_eq_true_iff.1 h
    exact Bool.and_eq_true_iff.2 ⟨isFinite_of_isExact hv, haveFinite_of_haveExact hes⟩

end

theorem ofJson?_toJson {v : Value} (h : v.isExact = true) : ofJson? v.toJson = some v :=
  ofJson?_toJson_of_finite (isFinite_of_isExact h)

mutual

theorem isExact_toJson {v : Value} (h : v.isExact = true) : v.toJson.isExact = true := by
  cases v with
  | float x => cases h
  | int n =>
    have hlow : -9223372036854775808 ≤ n.toInt := n.le_toInt
    have hhigh : n.toInt < 9223372036854775808 := n.toInt_lt
    rw [toJson, Json.isExact, Bool.and_eq_true, decide_eq_true_eq, decide_eq_true_eq]
    omega
  | list items => exact areExact_toJsonItems h
  | map entries => exact haveExact_toJsonEntries (Bool.and_eq_true_iff.1 h).2
  | _ => rfl

theorem areExact_toJsonItems {vs : List Value} (h : areExact vs = true) :
    Json.areExact (toJsonItems vs) = true := by
  cases vs with
  | nil => rfl
  | cons v vs =>
    obtain ⟨hv, hvs⟩ := Bool.and_eq_true_iff.1 h
    rw [toJsonItems, Json.areExact, isExact_toJson hv, areExact_toJsonItems hvs, Bool.and_true]

theorem haveExact_toJsonEntries {es : List (String × Value)} (h : haveExact es = true) :
    Json.haveExact (toJsonEntries es) = true := by
  cases es with
  | nil => rfl
  | cons e es =>
    obtain ⟨k, v⟩ := e
    obtain ⟨hv, hes⟩ := Bool.and_eq_true_iff.1 h
    rw [toJsonEntries, Json.haveExact, isExact_toJson hv, haveExact_toJsonEntries hes, Bool.and_true]

end

end Value

theorem Conjunction.choice?_name (m : Conjunction) : Json.choice? names (.str m.name) = some m := by
  cases m <;> rfl

theorem Direction.choice?_name (d : Direction) : Json.choice? names (.str d.name) = some d := by
  cases d <;> rfl

namespace Where

mutual

/-- Whether JSON can say all of a filter node. -/
def isExact : Where → Bool
  | leaf _ _ _ v => v.isExact
  | group _ ws => areExact ws

def areExact : List Where → Bool
  | [] => true
  | w :: ws => isExact w && areExact ws

end

/-- A node with each key once is read as a group and, when it is none, as a comparison. -/
theorem ofJsonWithin?_obj (fuel : Nat) {members : List (String × Json)} (h : (members.map Prod.fst).Nodup) :
    ofJsonWithin? (fuel + 1) (.obj members) =
      (Json.partOr? members "method" .and (Json.choice? Conjunction.names)).bind fun m =>
        ((Json.part? members "wheres" (Json.items? (ofJsonWithin? fuel))).bind fun ws => some (group m ws)) <|>
          leafOf? m members := by
  rw [ofJsonWithin?, Json.parts?_obj h, Json.parts?_obj h]
  rfl

theorem leafOf?_toJson (m : Conjunction) (c : String) (op : Operator) {v : Value} (hv : v.isExact = true) :
    leafOf? m [("method", .str m.name), ("column", .str c), ("op", .str op.name), ("value", v.toJson)] =
      some (leaf m c op v) := by
  have hkeys : ["method", "column", "op", "value"].Nodup := by decide
  have hop : Json.choice? Operator.names (.str op.name) = some op := op.lookup_name
  have hvalue := Value.ofJson?_toJson hv
  rw [leafOf?, Json.parts?_obj]
  · simp [Json.partOr?, Json.part?, Assoc.get?, Json.text?, hop, hvalue]
  · exact hkeys

theorem ofJsonWithin?_leaf (fuel : Nat) (m : Conjunction) (c : String) (op : Operator) {v : Value}
    (hv : v.isExact = true) : ofJsonWithin? (fuel + 1) (leaf m c op v).toJson = some (leaf m c op v) := by
  have hkeys : ["method", "column", "op", "value"].Nodup := by decide
  have hm := m.choice?_name
  have hleaf := leafOf?_toJson m c op hv
  rw [toJson, ofJsonWithin?_obj]
  · simp [Json.partOr?, Json.part?, Assoc.get?, hm, hleaf]
  · exact hkeys

theorem ofJsonWithin?_group (fuel : Nat) (m : Conjunction) {ws : List Where}
    (hws : (toJsonAll ws).mapM (ofJsonWithin? fuel) = some ws) :
    ofJsonWithin? (fuel + 1) (group m ws).toJson = some (group m ws) := by
  have hkeys : ["method", "wheres"].Nodup := by decide
  have hm := m.choice?_name
  rw [toJson, ofJsonWithin?_obj]
  · simp [Json.partOr?, Json.part?, Assoc.get?, Json.items?, hm, hws]
  · exact hkeys

mutual

theorem ofJsonWithin?_toJson {w : Where} (hw : w.isExact = true) {fuel : Nat} (hfuel : w.toJson.depth ≤ fuel) :
    ofJsonWithin? fuel w.toJson = some w := by
  cases w with
  | leaf m c op v =>
    rw [toJson, Json.depth] at hfuel
    obtain ⟨fuel, rfl⟩ := Nat.exists_eq_add_of_le' hfuel
    exact ofJsonWithin?_leaf _ m c op hw
  | group m ws =>
    have hdepth : (group m ws).toJson.depth = Json.depthItems (toJsonAll ws) + 2 := by
      simp [toJson, Json.depth, Json.depthMembers]
    obtain ⟨fuel, rfl⟩ := Nat.exists_eq_add_of_le' (Nat.le_trans (Nat.le_add_left 1 _) (hdepth ▸ hfuel))
    have hws : Json.depthItems (toJsonAll ws) ≤ fuel := by omega
    exact ofJsonWithin?_group fuel m (mapM_toJsonAll hw hws)

theorem mapM_toJsonAll {ws : List Where} (hws : areExact ws = true) {fuel : Nat}
    (hfuel : Json.depthItems (toJsonAll ws) ≤ fuel) : (toJsonAll ws).mapM (ofJsonWithin? fuel) = some ws := by
  cases ws with
  | nil => rfl
  | cons w ws =>
    obtain ⟨hw, hws⟩ := Bool.and_eq_true_iff.1 hws
    rw [toJsonAll, Json.depthItems] at hfuel
    obtain ⟨hfirst, hrest⟩ := Nat.max_le.1 hfuel
    rw [toJsonAll, List.mapM_cons, ofJsonWithin?_toJson hw hfirst, mapM_toJsonAll hws hrest]
    rfl

end

mutual

theorem isExact_toJson {w : Where} (hw : w.isExact = true) : w.toJson.isExact = true := by
  cases w with
  | leaf m c op v =>
    have hv : v.toJson.isExact = true := Value.isExact_toJson hw
    simp [toJson, Json.isExact, Json.haveExact, hv]
  | group m ws =>
    have hws : Json.areExact (toJsonAll ws) = true := areExact_toJsonAll hw
    simp [toJson, Json.isExact, Json.haveExact, hws]

theorem areExact_toJsonAll {ws : List Where} (hws : areExact ws = true) : Json.areExact (toJsonAll ws) = true := by
  cases ws with
  | nil => rfl
  | cons w ws =>
    obtain ⟨hw, hws⟩ := Bool.and_eq_true_iff.1 hws
    rw [toJsonAll, Json.areExact, isExact_toJson hw, areExact_toJsonAll hws, Bool.and_true]

end

/-- A filter node is read back, a group as a group and a comparison as a comparison. -/
theorem ofJson?_toJson {w : Where} (hw : w.isExact = true) : ofJson? w.toJson = some w := by
  rw [ofJson?, Json.readable_of_isExact (isExact_toJson hw), if_pos rfl]
  exact ofJsonWithin?_toJson hw (Nat.le_refl _)

theorem items?_toJsonAll {ws : List Where} (hws : areExact ws = true) :
    Json.items? ofJson? (.arr (toJsonAll ws)) = some ws := by
  show (toJsonAll ws).mapM ofJson? = some ws
  induction ws with
  | nil => rfl
  | cons w ws ih =>
    obtain ⟨hw, hws⟩ := Bool.and_eq_true_iff.1 hws
    rw [toJsonAll, List.mapM_cons, ofJson?_toJson hw, ih hws]
    rfl

theorem strict_ofJson? (j : Json) : Json.Strict ofJson? j := by
  intro w hw
  rw [ofJson?] at hw
  split at hw
  next hreadable => exact hreadable
  next => cases hw

end Where

namespace Order

theorem ofJson?_toJson (o : Order) : ofJson? o.toJson = some o := by
  have hkeys : ["column", "direction"].Nodup := by decide
  have hd := o.direction.choice?_name
  rw [ofJson?, toJson, Json.parts?_obj]
  · simp [Json.partOr?, Json.part?, Assoc.get?, Json.text?, hd]
  · exact hkeys

theorem strict_ofJson? (o : Order) (level : Nat) : Json.Strict ofJson? (Json.capped level o.toJson) := by
  apply Json.strict_capped_obj rfl
  intro _ _
  rfl

end Order

theorem word?_ofNat (n : UInt64) : word? (.nat n.toNat) = some n := by
  have hn : n.toNat < twoTo 64 := n.toNat_lt
  rw [word?, Json.nat, Json.natural?, if_pos hn, Option.map_some, UInt64.ofNat_toNat]

theorem optional?_wordJson (n : Option UInt64) : Json.optional? word? (wordJson n) = some n := by
  cases n with
  | none => rfl
  | some n =>
    show (word? (.nat n.toNat)).map some = _
    rw [word?_ofNat]
    rfl

theorem isExact_wordJson (n : Option UInt64) : (wordJson n).isExact = true := by
  cases n with
  | none => rfl
  | some n =>
    have hn : n.toNat < 18446744073709551616 := n.toNat_lt
    rw [wordJson, Json.nat, Json.isExact, Bool.and_eq_true, decide_eq_true_eq, decide_eq_true_eq, Int.ofNat_eq_natCast]
    omega

theorem readable_wordJson (n : Option UInt64) (level : Nat) : (Json.capped level (wordJson n)).readable = true := by
  cases n <;> rfl

theorem optional?_ofText? (s : Option String) : Json.optional? Json.text? (.ofText? s) = some s := by
  cases s <;> rfl

namespace Descriptor

mutual

/-- Whether JSON can say all of a request: its filter is exact, and so are the eager-loads, which stand in the order of
their names. -/
def isExact : Descriptor → Bool
  | ⟨_, _, wheres, _, _, _, withs, _⟩ =>
    Where.areExact wheres && decide ((withs.map Prod.fst).Pairwise (· < ·)) && haveExact withs

def haveExact : List (String × With Descriptor) → Bool
  | [] => true
  | (_, ⟨_, none⟩) :: ws => haveExact ws
  | (_, ⟨_, some query⟩) :: ws => isExact query && haveExact ws

end

/-- An eager-load with its name. -/
def named? (query? : Json → Option Descriptor) (member : String × Json) : Option (String × With Descriptor) :=
  (withOf? query? member.2).map fun w => (member.1, w)

theorem withsOf?_obj (query? : Json → Option Descriptor) (members : List (String × Json)) :
    withsOf? query? (.obj members) = (members.mapM (named? query?)).map Assoc.sortedByKey := by
  have hnamed : (fun m : String × Json => do some (m.1, ← withOf? query? m.2)) = named? query? := by
    funext m
    rw [named?, Option.map_eq_bind]
    rfl
  rw [withsOf?, hnamed, Option.map_eq_bind]
  rfl

theorem named?_eq_some_iff {query? : Json → Option Descriptor} {name : String} {r q : Json}
    {load : String × With Descriptor} :
    named? query? (name, .obj [("relation", r), ("query", q)]) = some load ↔
      Json.optional? Json.text? r = some load.2.relation ∧ Json.optional? query? q = some load.2.query ∧
        name = load.1 := by
  have hkeys : ["relation", "query"].Nodup := by decide
  obtain ⟨n, relation, query⟩ := load
  rw [named?, withOf?, Json.parts?_obj]
  · simp [Json.partOr?, Assoc.get?, Option.bind_eq_some_iff]
  · exact hkeys

theorem ofJsonWithin?_eq_some_iff {fuel : Nat} {model select wheres orders limit offset withs trashed : Json}
    {q : Descriptor} :
    ofJsonWithin? (fuel + 1) (.obj [("model", model), ("select", select), ("wheres", wheres), ("orders", orders),
        ("limit", limit), ("offset", offset), ("withs", withs), ("with_trashed", trashed)]) = some q ↔
      Json.optional? Json.text? model = some q.model ∧ Json.items? Json.text? select = some q.select ∧
        Json.items? Where.ofJson? wheres = some q.wheres ∧ Json.items? Order.ofJson? orders = some q.orders ∧
        Json.optional? word? limit = some q.limit ∧ Json.optional? word? offset = some q.offset ∧
        withsOf? (ofJsonWithin? fuel) withs = some q.withs ∧ Json.truth? trashed = some q.withTrashed := by
  have hkeys : partNames.Nodup := by decide
  obtain ⟨m, s, w, o, l, f, ws, t⟩ := q
  rw [ofJsonWithin?, Json.parts?_obj]
  · simp [Json.partOr?, Assoc.get?, Option.bind_eq_some_iff, -Bool.exists_bool]
  · exact hkeys

theorem optional?_toJson {read : Json → Option Descriptor} {q : Descriptor} (h : read q.toJson = some q) :
    Json.optional? read q.toJson = some (some q) := by
  obtain ⟨_, _, _, _, _, _, _, _⟩ := q
  rw [toJson] at h ⊢
  rw [Json.optional?, h]
  · rfl
  · intro hnull
    cases hnull

theorem depthMembers_toJsonWiths_lt (q : Descriptor) :
    Json.depthMembers (toJsonWiths q.withs) + 1 < q.toJson.depth := by
  obtain ⟨_, _, _, _, _, _, withs, _⟩ := q
  simp only [toJson, Json.depth, Json.depthMembers]
  omega

/-- A request whose eager-loads are read. -/
theorem ofJsonWithin?_of_withs {q : Descriptor} (hq : q.isExact = true) {fuel : Nat}
    (hwiths : (toJsonWiths q.withs).mapM (named? (ofJsonWithin? fuel)) = some q.withs) :
    ofJsonWithin? (fuel + 1) q.toJson = some q := by
  obtain ⟨model, select, wheres, orders, limit, offset, withs, withTrashed⟩ := q
  rw [isExact, Bool.and_eq_true, Bool.and_eq_true, decide_eq_true_eq] at hq
  obtain ⟨⟨hwheres, hsorted⟩, -⟩ := hq
  have hselect : Json.items? Json.text? (.arr (select.map .str)) = some (select.map id) :=
    Json.items?_arr_map fun _ _ => rfl
  have horders : Json.items? Order.ofJson? (.arr (orders.map Order.toJson)) = some (orders.map id) :=
    Json.items?_arr_map fun o _ => o.ofJson?_toJson
  have hloads : withsOf? (ofJsonWithin? fuel) (.obj (toJsonWiths withs)) = some withs := by
    rw [withsOf?_obj, hwiths, Option.map_some, Assoc.sortedByKey_eq_self hsorted]
  rw [List.map_id] at hselect horders
  rw [toJson, ofJsonWithin?_eq_some_iff]
  exact ⟨optional?_ofText? model, hselect, Where.items?_toJsonAll hwheres, horders, optional?_wordJson limit,
    optional?_wordJson offset, hloads, rfl⟩

theorem ofJsonWithin?_toJson (q : Descriptor) :
    q.isExact = true → ∀ fuel, q.toJson.depth < fuel → ofJsonWithin? fuel q.toJson = some q := by
  -- The bound falls by one at a request and stays the same along its eager-loads.
  apply toJson.induct (fun q => q.isExact = true → ∀ fuel, q.toJson.depth < fuel → ofJsonWithin? fuel q.toJson = some q)
    (fun ws => haveExact ws = true → ∀ fuel, Json.depthMembers (toJsonWiths ws) < fuel →
      (toJsonWiths ws).mapM (named? (ofJsonWithin? fuel)) = some ws)
  case case1 =>
    intro model select wheres orders limit offset withs withTrashed ih hq fuel hfuel
    have hwiths : haveExact withs = true := (Bool.and_eq_true_iff.1 hq).2
    have hlt := Nat.lt_trans (depthMembers_toJsonWiths_lt _) hfuel
    cases fuel with
    | zero => cases hlt
    | succ fuel => exact ofJsonWithin?_of_withs hq (ih hwiths fuel (Nat.lt_of_succ_lt_succ hlt))
  case case2 =>
    intro _ fuel _
    rfl
  case case3 =>
    intro name relation ws ih hws fuel hfuel
    rw [toJsonWiths, Json.depthMembers] at hfuel
    obtain ⟨-, hrest⟩ := Nat.max_lt.1 hfuel
    have hfirst : named? (ofJsonWithin? fuel) (name, .obj [("relation", .ofText? relation), ("query", .null)]) =
        some (name, ⟨relation, none⟩) := named?_eq_some_iff.2 ⟨optional?_ofText? relation, rfl, rfl⟩
    rw [toJsonWiths, List.mapM_cons, hfirst, ih hws fuel hrest]
    rfl
  case case4 =>
    intro name relation query ws ihq ih h fuel hfuel
    obtain ⟨hq, hws⟩ := Bool.and_eq_true_iff.1 h
    rw [toJsonWiths, Json.depthMembers] at hfuel
    obtain ⟨hload, hrest⟩ := Nat.max_lt.1 hfuel
    have hdepth : query.toJson.depth < fuel := by
      simp only [Json.depth, Json.depthMembers] at hload
      omega
    have hquery := optional?_toJson (ihq hq fuel hdepth)
    have hfirst : named? (ofJsonWithin? fuel) (name, .obj [("relation", .ofText? relation), ("query", query.toJson)]) =
        some (name, ⟨relation, some query⟩) := named?_eq_some_iff.2 ⟨optional?_ofText? relation, hquery, rfl⟩
    rw [toJsonWiths, List.mapM_cons, hfirst, ih hws fuel hrest]
    rfl

/-- The tree of a request is read as the request. -/
theorem ofJson?_toJson {q : Descriptor} (hq : q.isExact = true) : ofJson? q.toJson = some q :=
  ofJsonWithin?_toJson q hq _ (Nat.lt_succ_self _)

theorem isExact_toJson (q : Descriptor) : q.isExact = true → q.toJson.isExact = true := by
  apply toJson.induct (fun q => q.isExact = true → q.toJson.isExact = true)
    (fun ws => haveExact ws = true → Json.haveExact (toJsonWiths ws) = true)
  case case1 =>
    intro model select wheres orders limit offset withs withTrashed ih hq
    rw [isExact, Bool.and_eq_true, Bool.and_eq_true] at hq
    obtain ⟨⟨hwheres, -⟩, hwiths⟩ := hq
    have hselect : Json.areExact (select.map .str) = true := Json.areExact_map _ fun _ => rfl
    have horders : Json.areExact (orders.map Order.toJson) = true := Json.areExact_map _ fun _ => rfl
    simp only [toJson, Json.isExact, Json.haveExact, Json.isExact_ofText?, isExact_wordJson, hselect, horders,
      Where.areExact_toJsonAll hwheres, ih hwiths, Bool.and_self]
  case case2 =>
    intro _
    rfl
  case case3 =>
    intro name relation ws ih hws
    simp only [toJsonWiths, Json.isExact, Json.haveExact, Json.isExact_ofText?, ih hws, Bool.and_self]
  case case4 =>
    intro name relation query ws ihq ih h
    obtain ⟨hq, hws⟩ := Bool.and_eq_true_iff.1 h
    simp only [toJsonWiths, Json.isExact, Json.haveExact, Json.isExact_ofText?, ihq hq, ih hws, Bool.and_self]

theorem readable_of_named? {query? : Json → Option Descriptor} {name : String} {relation : Option String} {q : Json}
    {level : Nat} {load : String × With Descriptor}
    (hq : Json.Strict (Json.optional? query?) (Json.capped (level + 1) q))
    (h : named? query? (name, Json.capped level (.obj [("relation", .ofText? relation), ("query", q)])) = some load) :
    (Json.capped level (.obj [("relation", .ofText? relation), ("query", q)])).readable = true := by
  have hstrict : Json.Strict (fun j => named? query? (name, j))
      (Json.capped level (.obj [("relation", .ofText? relation), ("query", q)])) := by
    apply Json.strict_capped_obj rfl
    intro load hload
    obtain ⟨-, hquery, -⟩ := named?_eq_some_iff.1 hload
    simp [Json.cappedMembers, Json.readable, Json.readableMembers, Json.readable_ofText?, hq _ hquery]
  exact hstrict load h

theorem readableMembers_of_mapM {query? : Json → Option Descriptor} {name : String} {j : Json}
    {members : List (String × Json)} {loads : List (String × With Descriptor)}
    (h : ((name, j) :: members).mapM (named? query?) = some loads)
    (hfirst : ∀ load, named? query? (name, j) = some load → j.readable = true)
    (hrest : ∀ loads, members.mapM (named? query?) = some loads → Json.readableMembers members = true) :
    Json.readableMembers ((name, j) :: members) = true := by
  rw [List.mapM_cons] at h
  obtain ⟨load, hload, h⟩ := Option.bind_eq_some_iff.1 h
  obtain ⟨rest, hmembers, -⟩ := Option.bind_eq_some_iff.1 h
  rw [Json.readableMembers, hfirst load hload, hrest rest hmembers, Bool.and_true]

/-- A request of whose eager-loads nothing is read when they were cut off. -/
theorem strict_of_withs {q : Descriptor} {fuel level : Nat}
    (hwiths : Json.Strict (withsOf? (ofJsonWithin? fuel)) (Json.capped (level + 1) (.obj (toJsonWiths q.withs)))) :
    Json.Strict (ofJsonWithin? (fuel + 1)) (Json.capped level q.toJson) := by
  obtain ⟨model, select, wheres, orders, limit, offset, withs, withTrashed⟩ := q
  apply Json.strict_capped_obj rfl
  intro r hr
  simp only [Json.cappedMembers] at hr
  rw [ofJsonWithin?_eq_some_iff] at hr
  obtain ⟨-, hselect, hwheres, horders, -, -, hloads, -⟩ := hr
  have hselect := Json.strict_items?_capped select _ (fun _ _ => Json.strict_text? _) _ hselect
  have hwheres := Json.strict_items? (fun _ _ _ _ => Where.strict_ofJson? _) _ hwheres
  have horders := Json.strict_items?_capped orders _ Order.strict_ofJson? _ horders
  have hloads := hwiths _ hloads
  have htrashed : (Json.capped (level + 1) (.bool withTrashed)).readable = true := rfl
  simp only [Json.cappedMembers, Json.readable, Json.readableMembers, Json.readable_ofText?, readable_wordJson,
    hselect, hwheres, horders, hloads, htrashed, Bool.and_self]

/-- Of a tree that was cut off no request is read. -/
theorem strict_ofJsonWithin? (q : Descriptor) :
    ∀ fuel level, Json.Strict (ofJsonWithin? fuel) (Json.capped level q.toJson) := by
  apply toJson.induct (fun q => ∀ fuel level, Json.Strict (ofJsonWithin? fuel) (Json.capped level q.toJson))
    (fun ws => ∀ fuel level loads,
      (Json.cappedMembers level (toJsonWiths ws)).mapM (named? (ofJsonWithin? fuel)) = some loads →
        Json.readableMembers (Json.cappedMembers level (toJsonWiths ws)) = true)
  case case1 =>
    intro model select wheres orders limit offset withs withTrashed ih fuel level
    cases fuel with
    | zero => exact fun r hr => absurd hr (Option.some_ne_none r).symm
    | succ fuel =>
      apply strict_of_withs
      apply Json.strict_capped_obj rfl
      intro loads h
      rw [withsOf?_obj] at h
      obtain ⟨loads, h, -⟩ := Option.map_eq_some_iff.1 h
      exact ih fuel _ loads h
  case case2 =>
    intro _ _ _ _
    rfl
  case case3 =>
    intro name relation ws ih fuel level loads h
    have hnone : Json.Strict (Json.optional? (ofJsonWithin? fuel)) (Json.capped (level + 1) .null) := fun _ _ => rfl
    exact readableMembers_of_mapM h (fun _ hload => readable_of_named? hnone hload) (ih fuel level)
  case case4 =>
    intro name relation query ws ihq ih fuel level loads h
    have hquery := Json.strict_optional? (ihq fuel (level + 1))
    exact readableMembers_of_mapM h (fun _ hload => readable_of_named? hquery hload) (ih fuel level)

/-- The text of a request is read as the request, unless too many lists and objects nest in it; then it is refused. -/
theorem parse?_text {q : Descriptor} (hq : q.isExact = true) :
    parse? q.toJson.text = if q.toJson.depth ≤ Json.depthLimit then some q else none := by
  have hexact := isExact_toJson q hq
  have hparse : parse? q.toJson.text = ofJson? (Json.capped 0 q.toJson) := by
    rw [parse?, Json.parse?_text hexact]
    rfl
  rw [hparse]
  split
  next hdepth =>
    rw [Json.capped_eq_self (by omega)]
    exact ofJson?_toJson hq
  next hdepth =>
    rw [Option.eq_none_iff_forall_ne_some]
    intro r hr
    have hreadable := strict_ofJsonWithin? q _ 0 r hr
    rw [Json.readable_capped hexact (Nat.zero_le _), Nat.zero_add] at hreadable
    exact hdepth hreadable

/-- A request survives the exchange: its tree is read as the request, and so is its text, unless too many lists and
objects nest in it. A text that is too deep is refused. -/
theorem survives_exchange {q : Descriptor} (hq : q.isExact = true) :
    ofJson? q.toJson = some q ∧
      parse? q.toJson.text = if q.toJson.depth ≤ Json.depthLimit then some q else none :=
  ⟨ofJson?_toJson hq, parse?_text hq⟩

/-- A request with every part: comparisons and groups, an empty group among them, with null, a list and a map to compare
with, and eager-loads with and without a query. -/
def manifold : Descriptor :=
  { model := some "author"
    select := ["id", ""]
    wheres := [.leaf .and "id" .eq .null, .group .or [.leaf .and "name" .isIn (.list [.text "a", .int (-1)]),
      .group .and [], .leaf .or "wheres" .notNull (.map [("wheres", .list []), ("column", .null)])]]
    orders := [⟨"id", .desc⟩]
    limit := some 18446744073709551615
    offset := none
    withs := [("books", ⟨none, some { empty with limit := some 0 }⟩), ("mother", ⟨some "parent", none⟩)]
    withTrashed := true }

theorem manifold_survives_exchange :
    manifold.isExact = true ∧ ofJson? manifold.toJson = some manifold ∧
      parse? manifold.toJson.text = some manifold := by
  have hexact : manifold.isExact = true := by decide
  have hdepth : manifold.toJson.depth ≤ Json.depthLimit := by decide
  obtain ⟨htree, htext⟩ := survives_exchange hexact
  rw [if_pos hdepth] at htext
  exact ⟨hexact, htree, htext⟩

/-- A request with eager-loads that are nested in each other. -/
def nested : Nat → Descriptor
  | 0 => empty
  | n + 1 => { empty with withs := [("a", ⟨none, some (nested n)⟩)] }

theorem isExact_nested (n : Nat) : (nested n).isExact = true := by
  induction n with
  | zero => rfl
  | succ n ih =>
    show ((nested n).isExact && true) = true
    rw [ih, Bool.and_true]

theorem depth_nested (n : Nat) : (nested n).toJson.depth = 3 * n + 2 := by
  induction n with
  | zero => rfl
  | succ n ih =>
    simp [nested, empty, toJson, toJsonWiths, Json.depth, Json.depthMembers, Json.ofText?, wordJson, ih,
      Where.toJsonAll, Json.depthItems]
    omega

/-- Not every text is read back: 42 nested eager-loads are too deep. -/
theorem nested_not_read_back :
    (nested 42).isExact = true ∧ parse? (nested 42).toJson.text ≠ some (nested 42) := by
  refine ⟨isExact_nested 42, ?_⟩
  have hdeep : ¬ (nested 42).toJson.depth ≤ Json.depthLimit := by
    rw [depth_nested]
    decide
  rw [parse?_text (isExact_nested 42), if_neg hdeep]
  intro h
  cases h

end Descriptor

end DataModel

import DataModel.Proofs.Rounding
import DataModel.Proofs.SortedPairs
import DataModel.Value.Json

/-!
# Values as JSON values and back

A JSON value of its own has the members of every object in the order of their keys, whole numbers of 64 bits with or
without a sign, and finite numbers. A value of finite numbers becomes such a JSON value and comes back as it was, but
with the keys of its maps in order, which equality does not look at. Every JSON value comes back as it was, but for the
whole numbers that only fit without a sign: they come back as the numbers they are rounded to.
-/

namespace DataModel

namespace Binary64

theorem equals_self {x : Binary64} (h : x.isFinite = true) : x.equals x = true := by
  rw [equals, order, isNaN_of_isFinite h, compare_eq_iff_eq.2 rfl]
  rfl

end Binary64

namespace Value

mutual

/-- Whether a value is one of finite numbers. A map has each key once. -/
def isFinite : Value → Bool
  | float x => x.isFinite
  | list items => areFinite items
  | map entries => decide (entries.map Prod.fst).Nodup && haveFinite entries
  | null | bool _ | int _ | text _ => true

def areFinite : List Value → Bool
  | [] => true
  | v :: vs => isFinite v && areFinite vs

def haveFinite : List (String × Value) → Bool
  | [] => true
  | (_, v) :: es => isFinite v && haveFinite es

end

mutual

/-- The value with the keys of every map in order, of a repeated key the last. -/
def sorted : Value → Value
  | list items => list (sortedItems items)
  | map entries => map (Assoc.sortedByKey (sortedEntries entries))
  | v => v

def sortedItems : List Value → List Value
  | [] => []
  | v :: vs => sorted v :: sortedItems vs

def sortedEntries : List (String × Value) → List (String × Value)
  | [] => []
  | (k, v) :: es => (k, sorted v) :: sortedEntries es

end

/-- What holds of a list or map when it holds of all that is in it holds of every value. -/
@[elab_as_elim]
theorem nested {motive : Value → Prop} (null : motive null) (bool : ∀ b, motive (bool b)) (int : ∀ n, motive (int n))
    (float : ∀ x, motive (float x)) (text : ∀ s, motive (text s))
    (list : ∀ items, (∀ v ∈ items, motive v) → motive (list items))
    (map : ∀ entries : List (String × Value), (∀ e ∈ entries, motive e.2) → motive (map entries)) (v : Value) :
    motive v :=
  match v with
  | .null => null
  | .bool b => bool b
  | .int n => int n
  | .float x => float x
  | .text s => text s
  | .list items => list items fun v _ => nested null bool int float text list map v
  | .map entries => map entries fun e _ => nested null bool int float text list map e.2
termination_by sizeOf v
decreasing_by
  · have := List.sizeOf_lt_of_mem ‹v ∈ items›
    simp only [Value.list.sizeOf_spec]
    omega
  · have hentry := List.sizeOf_lt_of_mem ‹e ∈ entries›
    obtain ⟨k, v⟩ := e
    simp only [Value.map.sizeOf_spec, Prod.mk.sizeOf_spec] at hentry ⊢
    omega

theorem areFinite_iff {vs : List Value} : areFinite vs = true ↔ ∀ v ∈ vs, v.isFinite = true := by
  induction vs with
  | nil => exact iff_of_true rfl fun _ hv => absurd hv List.not_mem_nil
  | cons v vs ih => rw [areFinite, Bool.and_eq_true, ih, List.forall_mem_cons]

theorem haveFinite_iff {es : List (String × Value)} : haveFinite es = true ↔ ∀ e ∈ es, e.2.isFinite = true := by
  induction es with
  | nil => exact iff_of_true rfl fun _ he => absurd he List.not_mem_nil
  | cons e es ih => rw [haveFinite, Bool.and_eq_true, ih, List.forall_mem_cons]

theorem isFinite_map_iff {es : List (String × Value)} :
    (map es).isFinite = true ↔ (es.map Prod.fst).Nodup ∧ ∀ e ∈ es, e.2.isFinite = true := by
  rw [isFinite, Bool.and_eq_true, decide_eq_true_eq, haveFinite_iff]

theorem sortedItems_eq_map (vs : List Value) : sortedItems vs = vs.map sorted := by
  induction vs with
  | nil => rfl
  | cons v vs ih => rw [sortedItems, ih, List.map_cons]

theorem sortedEntries_eq_map (es : List (String × Value)) : sortedEntries es = es.map fun e => (e.1, e.2.sorted) := by
  induction es with
  | nil => rfl
  | cons e es ih => rw [sortedEntries, ih, List.map_cons]

theorem toJsonItems_eq_map (vs : List Value) : toJsonItems vs = vs.map toJson := by
  induction vs with
  | nil => rfl
  | cons v vs ih => rw [toJsonItems, ih, List.map_cons]

theorem toJsonEntries_eq_map (es : List (String × Value)) : toJsonEntries es = es.map fun e => (e.1, e.2.toJson) := by
  induction es with
  | nil => rfl
  | cons e es ih => rw [toJsonEntries, ih, List.map_cons]

end Value

namespace Json

theorem sortedItems_eq_map (js : List Json) : sortedItems js = js.map sorted := by
  induction js with
  | nil => rfl
  | cons j js ih => rw [sortedItems, ih, List.map_cons]

theorem sortedMembers_eq_map (ms : List (String × Json)) : sortedMembers ms = ms.map fun m => (m.1, m.2.sorted) := by
  induction ms with
  | nil => rfl
  | cons m ms ih => rw [sortedMembers, ih, List.map_cons]

end Json

namespace Value

/-! ## From a value and back -/

theorem ofWhole_toInt (n : Int64) : ofWhole n.toInt = int n := by
  have hlow : -9223372036854775808 ≤ n.toInt := n.le_toInt
  have hhigh : n.toInt < 9223372036854775808 := n.toInt_lt
  have hrange : -9223372036854775808 ≤ n.toInt ∧ n.toInt ≤ 9223372036854775807 := ⟨hlow, by omega⟩
  rw [ofWhole, if_pos hrange, Int64.ofInt_toInt]

/-- The keys may be put in order before or after a value becomes a tree. -/
theorem toJson_sorted (v : Value) : v.sorted.toJson = v.toJson.sorted := by
  induction v using nested with
  | float x =>
    show toJson (float x) = (toJson (float x)).sorted
    rw [toJson]
    split <;> rfl
  | list items ih =>
    rw [sorted, toJson, toJson, Json.sorted, sortedItems_eq_map, toJsonItems_eq_map, toJsonItems_eq_map,
      Json.sortedItems_eq_map, List.map_map, List.map_map]
    exact congrArg Json.arr (List.map_congr_left ih)
  | map entries ih =>
    rw [sorted, toJson, toJson, Json.sorted, toJsonEntries_eq_map, ← Assoc.sortedByKey_mapped toJson,
      sortedEntries_eq_map, toJsonEntries_eq_map, Json.sortedMembers_eq_map, List.map_map, List.map_map]
    exact congrArg (fun ms => Json.obj (Assoc.sortedByKey ms))
      (List.map_congr_left fun e he => congrArg (Prod.mk e.1) (ih e he))
  | _ => rfl

theorem perm_sortedEntries {es : List (String × Value)} (h : (es.map Prod.fst).Nodup) :
    (Assoc.sortedByKey (sortedEntries es)).Perm (es.map fun e => (e.1, e.2.sorted)) := by
  rw [sortedEntries_eq_map, Assoc.sortedByKey_mapped]
  exact (Assoc.perm_sortedByKey h).map _

theorem isFinite_sorted {v : Value} (h : v.isFinite = true) : v.sorted.isFinite = true := by
  induction v using nested with
  | list items ih =>
    rw [sorted, isFinite, sortedItems_eq_map, areFinite_iff, List.forall_mem_map]
    exact fun v hv => ih v hv (areFinite_iff.1 h v hv)
  | map entries ih =>
    obtain ⟨hkeys, hentries⟩ := isFinite_map_iff.1 h
    rw [sorted, isFinite_map_iff]
    refine ⟨(Assoc.sorted_sortedByKey _).distinct, fun e he => ?_⟩
    obtain ⟨entry, hentry, rfl⟩ := List.mem_map.1 ((perm_sortedEntries hkeys).mem_iff.1 he)
    exact ih entry hentry (hentries entry hentry)
  | _ => exact h

theorem ofJsonItems?_toJsonItems_of {vs : List Value} (h : ∀ v ∈ vs, ofJson? v.toJson = some v) :
    ofJsonItems? (toJsonItems vs) = some vs := by
  induction vs with
  | nil => rfl
  | cons v vs ih =>
    rw [List.forall_mem_cons] at h
    rw [toJsonItems, ofJsonItems?, h.1, ih h.2]
    rfl

theorem ofJsonMembers?_toJsonEntries_of {es : List (String × Value)} (h : ∀ e ∈ es, ofJson? e.2.toJson = some e.2) :
    ofJsonMembers? (toJsonEntries es) = some es := by
  induction es with
  | nil => rfl
  | cons e es ih =>
    rw [List.forall_mem_cons] at h
    rw [toJsonEntries, ofJsonMembers?, h.1, ih h.2]
    rfl

/-- A value of finite numbers is read back from its tree. -/
theorem ofJson?_toJson_of_finite {v : Value} (h : v.isFinite = true) : ofJson? v.toJson = some v := by
  induction v using nested with
  | int n => rw [toJson, ofJson?, ofWhole_toInt]
  | float x =>
    rw [toJson, if_pos (show x.isFinite = true from h)]
    rfl
  | list items ih =>
    have hitems := areFinite_iff.1 h
    rw [toJson, ofJson?, ofJsonItems?_toJsonItems_of fun v hv => ih v hv (hitems v hv)]
    rfl
  | map entries ih =>
    obtain ⟨hkeys, hentries⟩ := isFinite_map_iff.1 h
    rw [toJson, ofJson?, ofJsonMembers?_toJsonEntries_of fun e he => ih e he (hentries e he), Option.map_some,
      Assoc.ofPairs_eq_self hkeys]
  | _ => rfl

theorem sameItems_sortedItems {vs : List Value} (h : ∀ v ∈ vs, v.same v.sorted = true) :
    sameItems vs (sortedItems vs) = true := by
  induction vs with
  | nil => rfl
  | cons v vs ih =>
    rw [List.forall_mem_cons] at h
    rw [sortedItems, sameItems, h.1, ih h.2, Bool.and_true]

theorem sameEntries_of {es other : List (String × Value)}
    (h : ∀ e ∈ es, ∃ v, Assoc.get? other e.1 = some v ∧ e.2.same v = true) : sameEntries es other = true := by
  induction es with
  | nil => rfl
  | cons e es ih =>
    rw [List.forall_mem_cons] at h
    obtain ⟨⟨v, hv, hsame⟩, hrest⟩ := h
    rw [sameEntries, hv, ih hrest, Bool.and_true]
    exact hsame

/-- The order of the keys does not count. -/
theorem same_sorted {v : Value} (h : v.isFinite = true) : v.same v.sorted = true := by
  induction v using nested with
  | float x => exact Binary64.equals_self h
  | list items ih =>
    have hitems := areFinite_iff.1 h
    rw [sorted, same]
    exact sameItems_sortedItems fun v hv => ih v hv (hitems v hv)
  | map entries ih =>
    obtain ⟨hkeys, hentries⟩ := isFinite_map_iff.1 h
    have hperm := perm_sortedEntries hkeys
    rw [sorted, same, Bool.and_eq_true, decide_eq_true_eq, hperm.length_eq, List.length_map]
    refine ⟨rfl, sameEntries_of fun e he => ⟨e.2.sorted, ?_, ih e he (hentries e he)⟩⟩
    exact (Assoc.sorted_sortedByKey _).distinct.get?_eq (hperm.mem_iff.2 (List.mem_map_of_mem he))
  | _ => simp only [sorted, same, decide_true]

end Value

namespace Json

/-! ## From a JSON value and back -/

mutual

/-- Whether a tree is a JSON value of its own: whole numbers have 64 bits with or without a sign, other numbers are
finite, and the keys of every object stand in order. -/
def isProper : Json → Bool
  | int n => -9223372036854775808 ≤ n && n < 18446744073709551616
  | float x => x.isFinite
  | arr items => areProper items
  | obj members => decide ((members.map Prod.fst).Pairwise (· < ·)) && haveProper members
  | unreadable => false
  | null | bool _ | str _ => true

def areProper : List Json → Bool
  | [] => true
  | j :: js => isProper j && areProper js

def haveProper : List (String × Json) → Bool
  | [] => true
  | (_, j) :: ms => isProper j && haveProper ms

end

mutual

/-- The JSON value with the whole numbers that only fit without a sign rounded. -/
def widened : Json → Json
  | int n => if n ≤ 9223372036854775807 then int n else float (Binary64.ofInt n)
  | arr items => arr (widenedItems items)
  | obj members => obj (widenedMembers members)
  | j => j

def widenedItems : List Json → List Json
  | [] => []
  | j :: js => widened j :: widenedItems js

def widenedMembers : List (String × Json) → List (String × Json)
  | [] => []
  | (k, j) :: ms => (k, widened j) :: widenedMembers ms

end

theorem map_fst_widenedMembers (ms : List (String × Json)) : (widenedMembers ms).map Prod.fst = ms.map Prod.fst := by
  induction ms with
  | nil => rfl
  | cons m ms ih => rw [widenedMembers, List.map_cons, ih, List.map_cons]

end Json

namespace Value

/-- A whole number of 64 bits is said by the value that is read from it. -/
theorem toJson_ofWhole {n : Int} (h : Json.isProper (.int n) = true) : (ofWhole n).toJson = Json.widened (.int n) := by
  rw [Json.isProper, Bool.and_eq_true, decide_eq_true_eq, decide_eq_true_eq] at h
  rw [ofWhole, Json.widened]
  by_cases hsigned : n ≤ 9223372036854775807
  · rw [if_pos ⟨h.1, hsigned⟩, if_pos hsigned, toJson, Int64.toInt_ofInt_of_le (by omega) (by omega)]
  · have hunsigned : n.natAbs < twoTo 64 := by
      have hbits : twoTo 64 = 18446744073709551616 := rfl
      omega
    rw [if_neg fun hboth => hsigned hboth.2, if_neg hsigned, toJson, if_pos (Binary64.isFinite_ofInt hunsigned)]

mutual

/-- What is read from a JSON value says it. -/
theorem exists_ofJson?_of_proper {j : Json} (h : j.isProper = true) :
    ∃ v, ofJson? j = some v ∧ v.toJson.sorted = j.widened := by
  cases j with
  | null => exact ⟨null, rfl, rfl⟩
  | bool b => exact ⟨bool b, rfl, rfl⟩
  | str s => exact ⟨text s, rfl, rfl⟩
  | unreadable => cases h
  | int n =>
    refine ⟨ofWhole n, rfl, ?_⟩
    rw [toJson_ofWhole h, Json.widened]
    split <;> rfl
  | float x =>
    refine ⟨float x, rfl, ?_⟩
    rw [toJson, if_pos (show x.isFinite = true from h)]
    rfl
  | arr items =>
    obtain ⟨vs, hread, hsaid⟩ := exists_ofJsonItems?_of_proper h
    refine ⟨list vs, by rw [ofJson?, hread]; rfl, ?_⟩
    rw [toJson, Json.sorted, hsaid, Json.widened]
  | obj members =>
    obtain ⟨hkeys, hmembers⟩ := Bool.and_eq_true_iff.1 h
    replace hkeys := of_decide_eq_true hkeys
    obtain ⟨es, hread, hsaid, hfst⟩ := exists_ofJsonMembers?_of_proper hmembers
    have hdistinct : (es.map Prod.fst).Nodup := by
      rw [hfst]
      exact hkeys.imp String.ne_of_lt
    refine ⟨map es, by rw [ofJson?, hread, Option.map_some, Assoc.ofPairs_eq_self hdistinct], ?_⟩
    rw [toJson, Json.sorted, hsaid, Json.widened, Assoc.sortedByKey_eq_self]
    rwa [Json.map_fst_widenedMembers]

theorem exists_ofJsonItems?_of_proper {js : List Json} (h : Json.areProper js = true) :
    ∃ vs, ofJsonItems? js = some vs ∧ Json.sortedItems (toJsonItems vs) = Json.widenedItems js := by
  cases js with
  | nil => exact ⟨[], rfl, rfl⟩
  | cons j js =>
    obtain ⟨hj, hjs⟩ := Bool.and_eq_true_iff.1 h
    obtain ⟨v, hread, hsaid⟩ := exists_ofJson?_of_proper hj
    obtain ⟨vs, hreads, hsays⟩ := exists_ofJsonItems?_of_proper hjs
    refine ⟨v :: vs, by rw [ofJsonItems?, hread, hreads]; rfl, ?_⟩
    rw [toJsonItems, Json.sortedItems, hsaid, hsays, Json.widenedItems]

theorem exists_ofJsonMembers?_of_proper {ms : List (String × Json)} (h : Json.haveProper ms = true) :
    ∃ es, ofJsonMembers? ms = some es ∧ Json.sortedMembers (toJsonEntries es) = Json.widenedMembers ms ∧
      es.map Prod.fst = ms.map Prod.fst := by
  cases ms with
  | nil => exact ⟨[], rfl, rfl, rfl⟩
  | cons m ms =>
    obtain ⟨k, j⟩ := m
    obtain ⟨hj, hms⟩ := Bool.and_eq_true_iff.1 h
    obtain ⟨v, hread, hsaid⟩ := exists_ofJson?_of_proper hj
    obtain ⟨es, hreads, hsays, hkeys⟩ := exists_ofJsonMembers?_of_proper hms
    refine ⟨(k, v) :: es, by rw [ofJsonMembers?, hread, hreads]; rfl, ?_, by rw [List.map_cons, hkeys, List.map_cons]⟩
    rw [toJsonEntries, Json.sortedMembers, hsaid, hsays, Json.widenedMembers]

end

/-! ## Both ways -/

/-- A value of finite numbers comes back from its JSON value with nothing but the keys of its maps rearranged, and so
does a record. A JSON value comes back with nothing but the whole numbers rounded that only fit without a sign. -/
theorem survives_conversion :
    (∀ v : Value, v.isFinite = true → ofJson? v.toJson.sorted = some v.sorted ∧ v.same v.sorted = true) ∧
      (∀ r : Record, (map r).isFinite = true →
        ∃ back, recordOfJson? (map r).toJson.sorted = some back ∧ (map r).same (map back) = true) ∧
      ∀ j : Json, j.isProper = true → ∃ v, ofJson? j = some v ∧ v.toJson.sorted = j.widened := by
  have hvalues : ∀ v : Value, v.isFinite = true → ofJson? v.toJson.sorted = some v.sorted := by
    intro v h
    rw [← toJson_sorted]
    exact ofJson?_toJson_of_finite (isFinite_sorted h)
  refine ⟨fun v h => ⟨hvalues v h, same_sorted h⟩, fun r h => ?_, fun j h => exists_ofJson?_of_proper h⟩
  refine ⟨Assoc.sortedByKey (sortedEntries r), ?_, same_sorted h⟩
  rw [recordOfJson?, hvalues (map r) h]
  rfl

end Value

namespace Sample

/-- A record with the number one twice, once as an integer, and with a negative zero. Its keys are out of order. -/
def looseReading : Record :=
  [("values", .list [.int 1, .float ⟨0x3ff0000000000000⟩, .float ⟨0x8000000000000000⟩]),
    ("at", .map [("row", .text ""), ("line", .null)])]

/-- A JSON value with the greatest whole number, which only fits without a sign. -/
def greatestCount : Json :=
  .obj [("at", .arr []), ("count", .int 18446744073709551615)]

theorem looseReading_survives :
    (Value.ofJson? (Value.map looseReading).toJson.sorted = some (Value.map looseReading).sorted ∧
        (Value.map looseReading).same (Value.map looseReading).sorted = true) ∧
      (∃ back, Value.recordOfJson? (Value.map looseReading).toJson.sorted = some back ∧
        (Value.map looseReading).same (.map back) = true) ∧
      ∃ v, Value.ofJson? greatestCount = some v ∧ v.toJson.sorted = greatestCount.widened :=
  ⟨Value.survives_conversion.1 _ (by decide +kernel), Value.survives_conversion.2.1 _ (by decide +kernel),
    Value.survives_conversion.2.2 _ (by decide +kernel)⟩

end Sample

end DataModel

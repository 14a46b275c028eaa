import DataModel.Proofs.Numeral
import DataModel.Proofs.Segment
import DataModel.Value.Path

/-!
# Dotted paths of nested values

A descent goes from a record to one of its values, and from there on through maps by key and through lists by place.
Its path writes the places as numerals and puts dots between the steps. As long as no key has a dot in it the path is
read as the steps it was written for, so it leads where the descent leads. A path that has come to its end cannot be
continued: nothing is inside a scalar, and in a list there is nothing but its items.
-/

namespace DataModel

namespace Numeral

variable {bound n : Nat} {text : List Char}

/-- Whether a text is a numeral of a number: digits, with a plus sign in front of them or without. -/
def Denotes (text : List Char) (n : Nat) : Prop :=
  ∃ digits, (text = digits ∨ text = '+' :: digits) ∧ digits ≠ [] ∧ (∀ c ∈ digits, c.isDigit = true) ∧
    Nat.ofDigitChars 10 digits 0 = n

theorem isDigit_of_digit? {c : Char} {d : Nat} (h : digit? c = some d) : c.isDigit = true := by
  unfold digit? at h
  split at h
  next hrange => exact Bool.and_eq_true_iff.2 ⟨decide_eq_true hrange.1, decide_eq_true hrange.2⟩
  next => cases h

theorem isDigit_of_extend? {acc : Nat} (h : extend? acc text = some n) : ∀ c ∈ text, c.isDigit = true := by
  induction text generalizing acc with
  | nil => exact fun _ hc => absurd hc List.not_mem_nil
  | cons c cs ih =>
    unfold extend? at h
    split at h
    next d hd => exact List.forall_mem_cons.2 ⟨isDigit_of_digit? hd, ih h⟩
    next => cases h

/-- A run of digits is read as the number it stands for, and nothing else is read. -/
theorem natural?_eq_some_iff :
    natural? text = some n ↔ text ≠ [] ∧ (∀ c ∈ text, c.isDigit = true) ∧ Nat.ofDigitChars 10 text 0 = n := by
  cases text with
  | nil => simp [natural?]
  | cons c cs =>
    have hread : natural? (c :: cs) = extend? 0 (c :: cs) := rfl
    rw [hread]
    constructor
    · intro h
      have hdigits := isDigit_of_extend? h
      rw [extend?_eq hdigits, Option.some.injEq] at h
      exact ⟨List.cons_ne_nil _ _, hdigits, h⟩
    · rintro ⟨-, hdigits, h⟩
      rw [extend?_eq hdigits, h]

/-- What is read within a bound is what a numeral denotes. -/
theorem unsigned?_eq_some_iff : unsigned? bound text = some n ↔ Denotes text n ∧ n < bound := by
  have hbound : ∀ read : Option Nat, (read.bind fun m => if m < bound then some m else none) = some n ↔
      read = some n ∧ n < bound := by
    intro read
    cases read with
    | none => simp
    | some m =>
      rw [Option.bind_some, Option.some.injEq]
      split <;> grind
  unfold unsigned?
  split
  next cs =>
    refine (hbound _).trans (and_congr_left fun _ => natural?_eq_some_iff.trans ?_)
    constructor
    · exact fun h => ⟨cs, Or.inr rfl, h⟩
    · rintro ⟨digits, rfl | hsign, hne, hdigits, hvalue⟩
      · exact absurd (hdigits '+' List.mem_cons_self) (by decide)
      · rw [(List.cons.inj hsign).2]
        exact ⟨hne, hdigits, hvalue⟩
  next hplain =>
    refine (hbound _).trans (and_congr_left fun _ => natural?_eq_some_iff.trans ?_)
    constructor
    · exact fun h => ⟨text, Or.inl rfl, h⟩
    · rintro ⟨digits, rfl | hsign, hread⟩
      · exact hread
      · exact absurd hsign (hplain digits)

theorem denotes_ofNat (n : Nat) : Denotes (ofNat n) n :=
  ⟨ofNat n, Or.inl rfl, natural?_eq_some_iff.1 (natural?_ofNat n)⟩

end Numeral

namespace Descent

/-- A step of a descent: to what a map has under a key, or to the item at a place of a list. -/
inductive Step where
  | key (name : String)
  | item (place : UInt64)
deriving DecidableEq

/-- The segment of a path for a step. -/
def Step.segment : Step → String
  | key name => name
  | item place => Numeral.natText place.toNat

/-- The path of a descent. -/
def path (steps : List Step) : String :=
  Segment.join "." (steps.map Step.segment)

/-- Whether no key of a descent has a dot in it. -/
def Dotless (steps : List Step) : Prop :=
  ∀ name, .key name ∈ steps → '.' ∉ name.toList

/-- The path is cut into the segments of the steps. -/
theorem pieces_path {steps : List Step} (hne : steps ≠ []) (h : Dotless steps) :
    Segment.pieces '.' (path steps) = steps.map Step.segment := by
  refine Segment.pieces_join (by simpa using hne) fun s hs => ?_
  obtain ⟨step, hstep, rfl⟩ := List.mem_map.1 hs
  cases step with
  | key name => exact h name hstep
  | item place =>
    intro hdot
    rw [Step.segment, Numeral.natText, String.toList_ofList] at hdot
    exact absurd (Numeral.isDigit_of_mem_ofNat hdot) (by decide)

end Descent

namespace Value

/-- Whether a descent leads from a value to another one. -/
inductive Reaches : Value → List Descent.Step → Value → Prop where
  | here (v : Value) : Reaches v [] v
  | key {entries : Record} {name : String} {v w : Value} {steps : List Descent.Step}
      (hv : entries.get? name = some v) (h : Reaches v steps w) : Reaches (map entries) (.key name :: steps) w
  | item {items : List Value} {place : UInt64} {v w : Value} {steps : List Descent.Step}
      (hv : items[place.toNat]? = some v) (h : Reaches v steps w) : Reaches (list items) (.item place :: steps) w

variable {v w : Value}

theorem descend_list (items : List Value) (segment : String) :
    (list items).descend segment = (Numeral.unsigned? (twoTo 64) segment.toList).bind fun n => items[n]? :=
  rfl

/-- The segment of a place is read as the place. -/
theorem descend_item (items : List Value) (place : UInt64) :
    (list items).descend (Descent.Step.item place).segment = items[place.toNat]? := by
  have hread : Numeral.unsigned? (twoTo 64) (Numeral.natText place.toNat).toList = some place.toNat := by
    rw [Numeral.natText, String.toList_ofList]
    exact Numeral.unsigned?_eq_some_iff.2 ⟨Numeral.denotes_ofNat _, place.toNat_lt⟩
  rw [descend_list, Descent.Step.segment, hread, Option.bind_some]

theorem Reaches.descendAll {steps : List Descent.Step} (h : v.Reaches steps w) :
    v.descendAll (steps.map Descent.Step.segment) = some w := by
  induction h with
  | here v => rfl
  | @key entries name v w steps hv _ ih =>
    have hstep : (map entries).descend name = some v := hv
    exact Option.bind_eq_some_iff.2 ⟨v, hstep, ih⟩
  | @item items place v w steps hv _ ih => exact Option.bind_eq_some_iff.2 ⟨v, (descend_item items place).trans hv, ih⟩

theorem descendAll_append (v : Value) (segments more : List String) :
    v.descendAll (segments ++ more) = (v.descendAll segments).bind fun w => w.descendAll more := by
  induction segments generalizing v with
  | nil => rfl
  | cons s segments ih =>
    have hfirst : ∀ rest, v.descendAll (s :: rest) = (v.descend s).bind fun w => w.descendAll rest := fun _ => rfl
    rw [List.cons_append, hfirst, hfirst, Option.bind_assoc]
    exact congrArg _ (funext ih)

/-- Nothing is inside a value that is no list and no map. -/
theorem descendAll_of_scalar (hlist : v.list? = none) (hmap : v.record? = none) {segments : List String}
    (hne : segments ≠ []) : v.descendAll segments = none := by
  cases segments with
  | nil => exact absurd rfl hne
  | cons s segments =>
    have hnone : v.descend s = none := by
      cases v with
      | list items => cases hlist
      | map entries => cases hmap
      | _ => rfl
    exact Option.bind_eq_none_iff.2 fun w hw => absurd (hnone.symm.trans hw) nofun

/-- In a list there is nothing under a segment that is no numeral of a place. -/
theorem descend_list_eq_none {items : List Value} {segment : String}
    (h : ∀ n < items.length, ¬ Numeral.Denotes segment.toList n) : (list items).descend segment = none := by
  refine Option.bind_eq_none_iff.2 fun n hn => List.getElem?_eq_none_iff.2 (Nat.not_lt.1 fun hlt => ?_)
  exact h n hlt (Numeral.unsigned?_eq_some_iff.1 hn).1

end Value

namespace Record

/-- A path is a descent from the record as a map. -/
theorem path?_eq (r : Record) (path : String) : r.path? path = (Value.map r).descendAll (Segment.pieces '.' path) := by
  unfold path?
  split
  next hnil => exact absurd hnil (Segment.pieces_ne_nil '.' path)
  next s segments hpieces =>
    rw [hpieces]
    rfl

/-- A longer path goes on from where the shorter one leads. -/
theorem path?_append (r : Record) (path more : String) :
    r.path? (path ++ "." ++ more) = (r.path? path).bind fun v => v.descendAll (Segment.pieces '.' more) := by
  rw [path?_eq, path?_eq, ← Value.descendAll_append]
  exact congrArg _ (Segment.pieces_append path more)

/-- Every nested value is reached by the path of the descent to it, as long as its keys have no dots. A path that
reaches a scalar or null leads no further, and one that reaches a list leads no further by what is no numeral of one of
its places. -/
theorem nested_value_reached (r : Record) :
    (∀ steps v, steps ≠ [] → Descent.Dotless steps → (Value.map r).Reaches steps v →
        r.path? (Descent.path steps) = some v) ∧
      (∀ path v more, r.path? path = some v → v.list? = none → v.record? = none →
        r.path? (path ++ "." ++ more) = none) ∧
      ∀ path items segment, r.path? path = some (.list items) → '.' ∉ segment.toList →
        (∀ n < items.length, ¬ Numeral.Denotes segment.toList n) → r.path? (path ++ "." ++ segment) = none := by
  refine ⟨fun steps v hne hdots h => ?_, fun path v more hv hlist hmap => ?_, fun path items segment hv hdot h => ?_⟩
  · rw [path?_eq, Descent.pieces_path hne hdots]
    exact h.descendAll
  · rw [path?_append, hv, Option.bind_some]
    exact Value.descendAll_of_scalar hlist hmap (Segment.pieces_ne_nil '.' more)
  · rw [path?_append, hv, Option.bind_some, Segment.pieces_of_not_mem hdot]
    exact Option.bind_eq_none_iff.2 fun w hw => absurd ((Value.descend_list_eq_none h).symm.trans hw) nofun

end Record

namespace Sample

/-- A record with a list of maps in it, one of them under an empty key. -/
def household : Record :=
  [("id", .int 1), ("rooms", .list [.null, .map [("0", .list [.text "desk"]), ("", .float ⟨0⟩)]])]

/-- The same segment is a key in a map and a place in a list. -/
theorem household_reached :
    household.path? "rooms.1.0.0" = some (.text "desk") ∧ household.path? "rooms.1.0.0.0" = none ∧
      household.path? "rooms.x" = none := by
  have hreaches : (Value.map household).Reaches [.key "rooms", .item 1, .key "0", .item 0] (.text "desk") :=
    .key rfl (.item rfl (.key rfl (.item rfl (.here _))))
  have hdots : Descent.Dotless [.key "rooms", .item 1, .key "0", .item 0] := by
    intro name hname
    simp only [List.mem_cons, Descent.Step.key.injEq, reduceCtorEq, List.not_mem_nil, or_false, false_or] at hname
    rcases hname with rfl | rfl <;> decide
  obtain ⟨hreached, hscalar, hlist⟩ := Record.nested_value_reached household
  have hdesk := hreached _ _ (by decide) hdots hreaches
  refine ⟨hdesk, hscalar _ _ "0" hdesk rfl rfl, hlist "rooms" _ "x" rfl (by decide) ?_⟩
  rintro n - ⟨digits, hx | hx, hne, hdigits, -⟩
  · exact absurd (hdigits 'x' (hx ▸ List.mem_cons_self)) (by decide)
  · exact absurd (List.cons.inj hx).1 (by decide)

end Sample

end DataModel

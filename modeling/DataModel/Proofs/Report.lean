import DataModel.Proofs.Intake
import DataModel.Proofs.Sample

/-!
# What validation reports

Every column is checked by itself. Where there is no value, it is asked whether there has to be one; a value
that is there is checked for its type and, if it is of that type, for all that the column and its rule say of
it. The checks stand in an order, and each finds one failure or none (`Inspection.Finds`). A report has the
columns for which a check has found something, in the order of the columns, or of the cells when only these
are checked, each once and with the texts of all that was found. It is made by adding text after text to a
list in which each text is put with the others of its column.
-/

namespace DataModel

/-- What a value under a column is checked for. -/
inductive Check where
  | required
  | presence
  | type
  | size
  | options
  | format
  | maxLength
  | minLength
  | pattern
  | allowed
  | minimum
  | maximum
deriving DecidableEq

/-- The checks in the order of what they find. -/
def Check.all : List Check :=
  [required, presence, type, size, options, format, maxLength, minLength, pattern, allowed, minimum, maximum]

/-- A column that is checked, whether it has to hold a value, and the value that it holds. -/
structure Inspection where
  column : Column
  mandatory : Bool
  value : Value

namespace Inspection

/-- Whether there is a value, and it is of the type of the column. -/
def Fits (i : Inspection) : Prop :=
  i.value ≠ .null ∧ i.column.kind.accepts i.value = true

/-- What a check finds. -/
inductive Finds (i : Inspection) : Check → Violation → Prop
  | required (hv : i.value = .null) (h : i.column.isRequired = true) : Finds i .required .missing
  | presence (hv : i.value = .null) (hrequired : i.column.isRequired = false) (h : i.mandatory = true) :
      Finds i .presence .null
  | type (hv : i.value ≠ .null) (h : i.column.kind.accepts i.value = false) :
      Finds i .type (.wrongType i.column.kind i.value)
  | size {n : Nat} {s : String} (hfits : i.Fits) (hn : i.column.kind.maxLength = some n) (hs : i.value = .text s)
      (h : n < s.length) : Finds i .size (.tooLong n)
  | options {s : String} (hfits : i.Fits) (hkind : i.column.kind = .enum) (hsome : i.column.options ≠ [])
      (hs : i.value = .text s) (h : s ∉ i.column.options) : Finds i .options (.noneOf i.column.options)
  | format {f s : String} (hfits : i.Fits) (hf : i.column.rule.bind Rule.format = some f) (hs : i.value = .text s)
      (h : Format.accepts (Segment.lower f) s = false) : Finds i .format (.badFormat (Segment.lower f))
  | maxLength {n : Nat} {s : String} (hfits : i.Fits) (hn : i.column.rule.bind Rule.maxLength = some n)
      (hs : i.value = .text s) (h : n < s.length) : Finds i .maxLength (.tooLong n)
  | minLength {n : Nat} {s : String} (hfits : i.Fits) (hn : i.column.rule.bind Rule.minLength = some n)
      (hs : i.value = .text s) (h : s.length < n) : Finds i .minLength (.tooShort n)
  | pattern {p : Pattern} {s : String} (hfits : i.Fits) (hrule : i.column.rule ≠ none)
      (hp : i.column.pattern = some p) (hs : i.value = .text s) (h : p.matchesIn s = false) : Finds i .pattern .noMatch
  | allowed {vs : List Value} (hfits : i.Fits) (hvs : i.column.rule.bind Rule.allowed = some vs)
      (h : ∀ v ∈ vs, i.value.looseEq v = false) :
      Finds i .allowed (.noneOf ((vs.take shownValues).map Value.display))
  | minimum {low x : Binary64} (hfits : i.Fits) (hlow : i.column.rule.bind Rule.minimum = some low)
      (hx : i.value.real? = some x) (h : x.below low = true) : Finds i .minimum (.below low)
  | maximum {high x : Binary64} (hfits : i.Fits) (hhigh : i.column.rule.bind Rule.maximum = some high)
      (hx : i.value.real? = some x) (h : high.below x = true) : Finds i .maximum (.above high)

/-- Whether a check finds something. -/
def Fails (i : Inspection) : Prop :=
  ∃ k x, i.Finds k x

/-- Whether some failures are all that some checks find, in their order. -/
def Lists (i : Inspection) (ks : List Check) (xs : List Violation) : Prop :=
  ∃ found : List (Check × Violation), (found.map Prod.fst).Sublist ks ∧ (∀ e ∈ found, i.Finds e.1 e.2) ∧
    (∀ k ∈ ks, ∀ x, i.Finds k x → (k, x) ∈ found) ∧ xs = found.map Prod.snd

/-- Whether some texts are those of all that the checks find, in the order of the checks. -/
def Tells (i : Inspection) (messages : List String) : Prop :=
  ∃ xs, i.Lists Check.all xs ∧ messages = xs.map Violation.message

variable {i : Inspection} {k : Check} {ks ks' : List Check} {xs xs' : List Violation}

theorem lists_append (h : i.Lists ks xs) (h' : i.Lists ks' xs') : i.Lists (ks ++ ks') (xs ++ xs') := by
  obtain ⟨found, hsub, hfinds, hall, rfl⟩ := h
  obtain ⟨found', hsub', hfinds', hall', rfl⟩ := h'
  refine ⟨found ++ found', ?_, List.forall_mem_append.2 ⟨hfinds, hfinds'⟩, fun k hk x hx => ?_, List.map_append.symm⟩
  · rw [List.map_append]
    exact hsub.append hsub'
  · rcases List.mem_append.1 hk with hk | hk
    · exact List.mem_append_left _ (hall k hk x hx)
    · exact List.mem_append_right _ (hall' k hk x hx)

theorem lists_nothing (h : ∀ k ∈ ks, ∀ x, ¬i.Finds k x) : i.Lists ks [] :=
  ⟨[], List.nil_sublist _, nofun, fun k hk x hx => absurd hx (h k hk x), rfl⟩

theorem lists_violatedIf {b : Bool} {y : Violation} (h : ∀ x, i.Finds k x ↔ b = true ∧ x = y) :
    i.Lists [k] (violatedIf b y) := by
  cases b with
  | false => exact lists_nothing fun k' hk x hx => Bool.false_ne_true ((h x).1 (List.mem_singleton.1 hk ▸ hx)).1
  | true =>
    refine ⟨[(k, y)], List.Sublist.refl _, ?_, fun k' hk x hx => ?_, rfl⟩
    · exact List.forall_mem_singleton.2 ((h y).2 ⟨rfl, rfl⟩)
    · obtain rfl := List.mem_singleton.1 hk
      rw [((h x).1 hx).2]
      exact List.mem_singleton_self _

theorem text?_eq_some_iff {v : Value} {s : String} : v.text? = some s ↔ v = .text s := by
  cases v with
  | text t => exact ⟨fun h => congrArg Value.text (Option.some.inj h), fun h => congrArg some (Value.text.inj h)⟩
  | _ => exact iff_of_false nofun nofun

/-- The failure by something that may be declared. -/
def checked {α : Type} (o : Option α) (b : α → Bool) (y : α → Violation) : List Violation :=
  match o with
  | some a => violatedIf (b a) (y a)
  | none => []

theorem lists_checked {α : Type} {o : Option α} {b : α → Bool} {y : α → Violation}
    (h : ∀ x, i.Finds k x ↔ ∃ a, o = some a ∧ b a = true ∧ x = y a) : i.Lists [k] (checked o b y) := by
  cases ho : o with
  | none =>
    refine lists_nothing fun k' hk x hx => ?_
    obtain ⟨a, ha, -⟩ := (h x).1 (List.mem_singleton.1 hk ▸ hx)
    cases ho.symm.trans ha
  | some a =>
    refine lists_violatedIf fun x => (h x).trans ⟨?_, fun hx => ⟨a, ho, hx⟩⟩
    rintro ⟨a', ha', hx⟩
    obtain rfl := Option.some.inj (ho.symm.trans ha')
    exact hx

/-- The failure of a text by something that may be declared. -/
def ofText {α : Type} (o : Option α) (text : Option String) (b : α → String → Bool) (y : α → Violation) :
    List Violation :=
  match o, text with
  | some a, some s => violatedIf (b a s) (y a)
  | _, _ => []

theorem lists_ofText {α : Type} {o : Option α} {b : α → String → Bool} {y : α → Violation}
    (h : ∀ x, i.Finds k x ↔ ∃ a s, o = some a ∧ i.value = .text s ∧ b a s = true ∧ x = y a) :
    i.Lists [k] (ofText o i.value.text? b y) := by
  have heq : ofText o i.value.text? b y = checked (o.bind fun a => i.value.text?.map fun s => (a, s))
      (fun e => b e.1 e.2) fun e => y e.1 := by
    cases o <;> cases i.value.text? <;> rfl
  rw [heq]
  refine lists_checked fun x => (h x).trans ?_
  simp [Option.bind_eq_some_iff, text?_eq_some_iff]

theorem tooLongFor_eq (limit : Option Nat) (text : Option String) :
    tooLongFor limit text = ofText limit text (fun n s => n < s.length) .tooLong := by
  cases limit <;> cases text <;> rfl

section Fits

variable (hfits : i.Fits)
include hfits

theorem lists_size : i.Lists [.size] (tooLongFor i.column.kind.maxLength i.value.text?) := by
  rw [tooLongFor_eq]
  refine lists_ofText fun x => ⟨?_, ?_⟩
  · rintro ⟨⟩
    next n s _ hn hs h => exact ⟨n, s, hn, hs, decide_eq_true h, rfl⟩
  · rintro ⟨n, s, hn, hs, h, rfl⟩
    exact .size hfits hn hs (of_decide_eq_true h)

theorem lists_options : i.Lists [.options] (i.column.optionViolations i.value.text?) := by
  have heq : i.column.optionViolations i.value.text? = ofText (some i.column) i.value.text?
      (fun c s => c.kind = .enum && !c.options.isEmpty && !c.options.contains s) fun c => .noneOf c.options := by
    cases i.value.text? <;> rfl
  rw [heq]
  refine lists_ofText fun x => ⟨?_, ?_⟩
  · rintro ⟨⟩
    next s _ hkind hsome hs h => exact ⟨i.column, s, rfl, hs, by simp [hkind, hsome, h], rfl⟩
  · rintro ⟨c, s, hc, hs, h, rfl⟩
    obtain rfl := Option.some.inj hc
    simp only [Bool.and_eq_true, decide_eq_true_eq, Bool.not_eq_true', List.isEmpty_eq_false_iff,
      List.contains_eq_mem, decide_eq_false_iff_not] at h
    exact .options hfits h.1.1 h.1.2 hs h.2

theorem lists_format : i.Lists [.format] (Rule.formatViolations (i.column.rule.bind Rule.format) i.value.text?) := by
  have heq : ∀ format text, Rule.formatViolations format text = ofText format text
      (fun f s => !Format.accepts (Segment.lower f) s) fun f => .badFormat (Segment.lower f) := by
    intro format text
    cases format <;> cases text <;> rfl
  rw [heq]
  refine lists_ofText fun x => ⟨?_, ?_⟩
  · rintro ⟨⟩
    next f s _ hf hs h => exact ⟨f, s, hf, hs, by rw [h]; rfl, rfl⟩
  · rintro ⟨f, s, hf, hs, h, rfl⟩
    exact .format hfits hf hs ((Bool.not_eq_true' _).mp h)

theorem lists_maxLength : i.Lists [.maxLength] (tooLongFor (i.column.rule.bind Rule.maxLength) i.value.text?) := by
  rw [tooLongFor_eq]
  refine lists_ofText fun x => ⟨?_, ?_⟩
  · rintro ⟨⟩
    next n s _ hn hs h => exact ⟨n, s, hn, hs, decide_eq_true h, rfl⟩
  · rintro ⟨n, s, hn, hs, h, rfl⟩
    exact .maxLength hfits hn hs (of_decide_eq_true h)

theorem lists_minLength :
    i.Lists [.minLength] (Rule.tooShortFor (i.column.rule.bind Rule.minLength) i.value.text?) := by
  have heq : ∀ limit text, Rule.tooShortFor limit text = ofText limit text (fun n s => s.length < n) .tooShort := by
    intro limit text
    cases limit <;> cases text <;> rfl
  rw [heq]
  refine lists_ofText fun x => ⟨?_, ?_⟩
  · rintro ⟨⟩
    next n s _ hn hs h => exact ⟨n, s, hn, hs, decide_eq_true h, rfl⟩
  · rintro ⟨n, s, hn, hs, h, rfl⟩
    exact .minLength hfits hn hs (of_decide_eq_true h)

theorem lists_pattern (hrule : i.column.rule ≠ none) :
    i.Lists [.pattern] (Rule.patternViolations i.column.pattern i.value.text?) := by
  have heq : ∀ pattern text, Rule.patternViolations pattern text =
      ofText pattern text (fun p s => !p.matchesIn s) fun _ => .noMatch := by
    intro pattern text
    cases pattern <;> cases text <;> rfl
  rw [heq]
  refine lists_ofText fun x => ⟨?_, ?_⟩
  · rintro ⟨⟩
    next p s _ _ hp hs h => exact ⟨p, s, hp, hs, by rw [h]; rfl, rfl⟩
  · rintro ⟨p, s, hp, hs, h, rfl⟩
    exact .pattern hfits hrule hp hs ((Bool.not_eq_true' _).mp h)

theorem lists_allowed : i.Lists [.allowed] (Rule.allowedViolations (i.column.rule.bind Rule.allowed) i.value) := by
  have heq : ∀ allowed v, Rule.allowedViolations allowed v = checked allowed (fun vs => !vs.any v.looseEq)
      fun vs => .noneOf ((vs.take shownValues).map Value.display) := by
    intro allowed v
    cases allowed <;> rfl
  rw [heq]
  refine lists_checked fun x => ⟨?_, ?_⟩
  · rintro ⟨⟩
    next vs _ hvs h => exact ⟨vs, hvs, by simpa using h, rfl⟩
  · rintro ⟨vs, hvs, h, rfl⟩
    exact .allowed hfits hvs (by simpa using h)

theorem lists_bounds : i.Lists [.minimum, .maximum]
    (Rule.boundViolations (i.column.rule.bind Rule.minimum) (i.column.rule.bind Rule.maximum) i.value.real?) := by
  cases hx : i.value.real? with
  | none =>
    -- what is no number is within all bounds
    refine lists_nothing fun k hk x hfinds => ?_
    rcases List.mem_pair.1 hk with rfl | rfl
    · cases hfinds with
      | minimum _ _ hx' => cases hx.symm.trans hx'
    · cases hfinds with
      | maximum _ _ hx' => cases hx.symm.trans hx'
  | some x =>
    have heq : ∀ minimum maximum, Rule.boundViolations minimum maximum (some x) =
        checked minimum (fun low => x.below low) .below ++ checked maximum (fun high => high.below x) .above := by
      intro minimum maximum
      cases minimum <;> cases maximum <;> rfl
    rw [heq]
    refine @lists_append _ [.minimum] [.maximum] _ _ (lists_checked fun y => ⟨?_, ?_⟩) (lists_checked fun y => ⟨?_, ?_⟩)
    · rintro ⟨⟩
      next low x' _ hlow hx' h =>
        obtain rfl := Option.some.inj (hx.symm.trans hx')
        exact ⟨low, hlow, h, rfl⟩
    · rintro ⟨low, hlow, h, rfl⟩
      exact .minimum hfits hlow hx h
    · rintro ⟨⟩
      next high x' _ hhigh hx' h =>
        obtain rfl := Option.some.inj (hx.symm.trans hx')
        exact ⟨high, hhigh, h, rfl⟩
    · rintro ⟨high, hhigh, h, rfl⟩
      exact .maximum hfits hhigh hx h

/-- What the rule of a column says of a value. -/
theorem lists_rule : i.Lists [.format, .maxLength, .minLength, .pattern, .allowed, .minimum, .maximum]
    (match i.column.rule with
      | some r => r.violations i.column.pattern i.value
      | none => []) := by
  have hformat := lists_format hfits
  have hlonger := lists_append hformat (lists_maxLength hfits)
  have hshorter := lists_append hlonger (lists_minLength hfits)
  have hallowed := lists_allowed hfits
  have hbounds := lists_bounds hfits
  cases hrule : i.column.rule with
  | none =>
    refine lists_nothing fun k hk x hfinds => ?_
    cases hfinds with
    | required | presence | type | size | options => simp at hk
    | pattern _ hsome => exact hsome hrule
    | format _ h | maxLength _ h | minLength _ h | allowed _ h | minimum _ h | maximum _ h =>
      rw [hrule] at h
      cases h
  | some r =>
    have hpattern := lists_pattern hfits (by rw [hrule]; exact nofun)
    rw [hrule] at hshorter hallowed hbounds
    exact lists_append (lists_append (lists_append hshorter hpattern) hallowed) hbounds

end Fits

/-- The failures of a column. -/
def violations (i : Inspection) : List Violation :=
  match i.value with
  | .null => if i.column.isRequired then [.missing] else violatedIf i.mandatory .null
  | v => i.column.violations v

theorem lists_of_null (hv : i.value = .null) : i.Lists Check.all i.violations := by
  have hmissing : i.Lists [.required] (violatedIf i.column.isRequired .missing) := by
    refine lists_violatedIf fun x => ⟨?_, ?_⟩
    · rintro ⟨⟩
      next _ h => exact ⟨h, rfl⟩
    · rintro ⟨h, rfl⟩
      exact .required hv h
  have hnull : i.Lists [.presence] (violatedIf (!i.column.isRequired && i.mandatory) .null) := by
    refine lists_violatedIf fun x => ⟨?_, ?_⟩
    · rintro ⟨⟩
      next _ hrequired h => exact ⟨by rw [hrequired, h]; rfl, rfl⟩
    · rintro ⟨h, rfl⟩
      rw [Bool.and_eq_true, Bool.not_eq_true'] at h
      exact .presence hv h.1 h.2
  have hrest : i.Lists [.type, .size, .options, .format, .maxLength, .minLength, .pattern, .allowed, .minimum, .maximum]
      [] := by
    refine lists_nothing fun k hk x hfinds => ?_
    cases hfinds with
    | required | presence => simp at hk
    | type h => exact h hv
    | size h | options h | format h | maxLength h | minLength h | pattern h | allowed h | minimum h | maximum h =>
      exact h.1 hv
  have heq : i.violations = violatedIf i.column.isRequired .missing ++
      (violatedIf (!i.column.isRequired && i.mandatory) .null ++ []) := by
    rw [violations, hv]
    cases i.column.isRequired <;> cases i.mandatory <;> rfl
  rw [heq]
  exact lists_append hmissing (lists_append hnull hrest)

/-- The failures of a column are what its checks find, in order. -/
theorem lists_violations (i : Inspection) : i.Lists Check.all i.violations := by
  by_cases hv : i.value = .null
  · exact lists_of_null hv
  have hthere : i.Lists [.required, .presence] [] := by
    refine lists_nothing fun k hk x hfinds => ?_
    cases hfinds with
    | required h | presence h => exact hv h
    | _ => simp at hk
  have heq : i.violations = i.column.violations i.value := by
    unfold violations
    split
    next h => exact absurd h hv
    next => rfl
  rw [heq, Column.violations]
  cases haccepts : i.column.kind.accepts i.value with
  | true =>
    have hfits : i.Fits := ⟨hv, haccepts⟩
    have htype : i.Lists [.type] [] := by
      refine lists_nothing fun k hk x hfinds => ?_
      cases hfinds with
      | type _ h => cases haccepts.symm.trans h
      | _ => simp at hk
    have hsizes := lists_append (lists_size hfits) (lists_options hfits)
    rw [if_pos rfl]
    exact lists_append hthere (lists_append htype (lists_append hsizes (lists_rule hfits)))
  | false =>
    -- a value of another type is checked no further
    have htype : i.Lists [.type] [.wrongType i.column.kind i.value] := by
      refine @lists_violatedIf _ _ true _ fun x => ⟨?_, ?_⟩
      · rintro ⟨⟩
        exact ⟨rfl, rfl⟩
      · rintro ⟨-, rfl⟩
        exact .type hv haccepts
    have hrest : i.Lists [.size, .options, .format, .maxLength, .minLength, .pattern, .allowed, .minimum, .maximum]
        [] := by
      refine lists_nothing fun k hk x hfinds => ?_
      cases hfinds with
      | required | presence | type => simp at hk
      | size h | options h | format h | maxLength h | minLength h | pattern h | allowed h | minimum h | maximum h =>
        cases haccepts.symm.trans h.2
    exact lists_append hthere (lists_append htype hrest)

theorem violations_ne_nil_iff : i.violations ≠ [] ↔ i.Fails := by
  obtain ⟨found, -, hfinds, hall, heq⟩ := i.lists_violations
  rw [heq, ne_eq, List.map_eq_nil_iff]
  constructor
  · intro hne
    obtain ⟨⟨k, x⟩, he⟩ := List.exists_mem_of_ne_nil found hne
    exact ⟨k, x, hfinds _ he⟩
  · rintro ⟨k, x, hx⟩ rfl
    have hk : k ∈ Check.all := by cases k <;> decide
    cases hall k hk x hx

end Inspection

/-- A column that failed, if there is something to tell of it. -/
def FieldError.of? (column : String) (messages : List String) : Option FieldError :=
  if messages = [] then none else some ⟨column, messages⟩

namespace ValidationErrors

variable {errors : ValidationErrors} {column : String}

/-- The texts of a column. -/
def messagesOf (errors : ValidationErrors) (column : String) : List String :=
  match errors.find? fun e => e.column = column with
  | some e => e.messages
  | none => []

theorem messagesOf_cons (e : FieldError) (errors : ValidationErrors) (column : String) :
    messagesOf (e :: errors) column = if e.column = column then e.messages else errors.messagesOf column := by
  by_cases h : e.column = column <;> simp [messagesOf, h]

/-- A text goes to the texts of its column when this was the last to fail, and behind all others when it has not yet
failed. -/
theorem push_of_not_mem (h : column ∉ errors.columns) (message : String) :
    push errors column message = errors ++ [⟨column, [message]⟩] ∧
      ∀ messages, push (errors ++ [⟨column, messages⟩]) column message =
        errors ++ [⟨column, messages ++ [message]⟩] := by
  induction errors with
  | nil => exact ⟨rfl, fun messages => if_pos rfl⟩
  | cons e errors ih =>
    have hne : e.column ≠ column := fun he => h (he ▸ List.mem_cons_self)
    obtain ⟨hnew, hlast⟩ := ih fun hin => h (List.mem_cons_of_mem _ hin)
    refine ⟨?_, fun messages => ?_⟩
    · rw [push, if_neg hne, hnew, List.cons_append]
    · rw [List.cons_append, push, if_neg hne, hlast, List.cons_append]

theorem pushAll_last (h : column ∉ errors.columns) (messages more : List String) :
    pushAll (errors ++ [⟨column, messages⟩]) column more = errors ++ [⟨column, messages ++ more⟩] := by
  induction more generalizing messages with
  | nil => rw [List.append_nil]; rfl
  | cons message more ih =>
    change pushAll (push (errors ++ [⟨column, messages⟩]) column message) column more = _
    rw [(push_of_not_mem h message).2, ih, List.append_assoc, List.singleton_append]

theorem pushAll_of_not_mem (h : column ∉ errors.columns) (messages : List String) :
    pushAll errors column messages = errors ++ (FieldError.of? column messages).toList := by
  cases messages with
  | nil => exact (List.append_nil errors).symm
  | cons message messages =>
    change pushAll (push errors column message) column messages = errors ++ [⟨column, message :: messages⟩]
    rw [(push_of_not_mem h message).1, pushAll_last h, List.singleton_append]

/-- Texts that are added column by column stay apart, in the order of the columns. -/
theorem foldl_pushAll {α : Type} {name : α → String} (messages : α → List String) {items : List α}
    (hitems : (items.map name).Nodup) (hnew : ∀ a ∈ items, name a ∉ errors.columns) :
    items.foldl (fun errors a => pushAll errors (name a) (messages a)) errors =
      errors ++ items.filterMap fun a => FieldError.of? (name a) (messages a) := by
  induction items generalizing errors with
  | nil => exact (List.append_nil errors).symm
  | cons a items ih =>
    rw [List.map_cons, List.nodup_cons] at hitems
    rw [List.forall_mem_cons] at hnew
    have hrest : ∀ b ∈ items, name b ∉ (pushAll errors (name a) (messages a)).columns := by
      intro b hb hin
      rcases mem_columns_pushAll.1 hin with hin | ⟨hname, -⟩
      · exact hnew.2 b hb hin
      · exact hitems.1 (hname ▸ List.mem_map_of_mem hb)
    rw [List.foldl_cons, ih hitems.2 hrest, pushAll_of_not_mem hnew.1, List.append_assoc, List.filterMap_cons]
    cases FieldError.of? (name a) (messages a) <;> rfl

end ValidationErrors

/-- Whether failures are those of all columns among some that fail, in their order and each once, with the texts of all
that is found for each. -/
structure Reports (is : List Inspection) (errors : ValidationErrors) : Prop where
  once : errors.columns.Nodup
  failing : ∃ failing : List Inspection, failing.Sublist is ∧ (∀ i ∈ is, i ∈ failing ↔ i.Fails) ∧
    List.Forall₂ (fun i e => e.column = i.column.name ∧ i.Tells e.messages) failing errors

namespace Inspection

variable {is : List Inspection} {i : Inspection}

/-- The texts of a column that is checked. -/
def messages (i : Inspection) : List String :=
  i.violations.map Violation.message

/-- The failure of a column that is checked, if it fails. -/
def report? (i : Inspection) : Option FieldError :=
  FieldError.of? i.column.name i.messages

/-- The names of the columns that are checked. -/
def names (is : List Inspection) : List String :=
  is.map fun i => i.column.name

theorem tells_messages (i : Inspection) : i.Tells i.messages :=
  ⟨i.violations, i.lists_violations, rfl⟩

theorem messages_eq_nil_iff : i.messages = [] ↔ ¬i.Fails := by
  rw [messages, List.map_eq_nil_iff, ← violations_ne_nil_iff, not_not]

theorem report?_eq_none_iff : i.report? = none ↔ ¬i.Fails := by
  rw [← messages_eq_nil_iff, report?, FieldError.of?]
  split <;> simp [*]

theorem report?_of_fails (h : i.Fails) : i.report? = some ⟨i.column.name, i.messages⟩ :=
  if_neg fun hnil => messages_eq_nil_iff.1 hnil h

/-- Nothing is reported when no column fails. -/
theorem reports_eq_nil_iff : is.filterMap report? = [] ↔ ∀ i ∈ is, ¬i.Fails := by
  rw [List.filterMap_eq_nil_iff]
  exact forall₂_congr fun i _ => report?_eq_none_iff

theorem columns_reports_sublist (is : List Inspection) :
    (ValidationErrors.columns (is.filterMap report?)).Sublist (names is) := by
  induction is with
  | nil => exact .slnil
  | cons i is ih =>
    rw [List.filterMap_cons]
    by_cases hi : i.Fails
    · rw [report?_of_fails hi]
      exact ih.cons_cons _
    · rw [report?_eq_none_iff.2 hi]
      exact ih.cons _

theorem reports_filterMap (his : (names is).Nodup) : Reports is (is.filterMap report?) where
  once := (columns_reports_sublist is).nodup his
  failing := by
    classical
    refine ⟨is.filter fun i => i.Fails, List.filter_sublist, fun i hi => by simp [hi], ?_⟩
    clear his
    induction is with
    | nil => exact .nil
    | cons i is ih =>
      rw [List.filterMap_cons]
      by_cases hi : i.Fails
      · rw [report?_of_fails hi, List.filter_cons, if_pos (decide_eq_true hi)]
        exact .cons ⟨rfl, i.tells_messages⟩ ih
      · rw [report?_eq_none_iff.2 hi, List.filter_cons, if_neg (by simpa using hi)]
        exact ih

theorem messagesOf_reports_of_not_mem {name : String} (h : name ∉ names is) :
    ValidationErrors.messagesOf (is.filterMap report?) name = [] := by
  have hnot : ∀ e ∈ is.filterMap report?, e.column ≠ name := by
    intro e he hname
    exact h ((columns_reports_sublist is).subset (hname ▸ List.mem_map_of_mem he))
  rw [ValidationErrors.messagesOf, List.find?_eq_none.2 fun e he => by simpa using hnot e he]

/-- What is reported for a column are the texts of this column. -/
theorem messagesOf_reports (his : (names is).Nodup) (hi : i ∈ is) :
    ValidationErrors.messagesOf (is.filterMap report?) i.column.name = i.messages := by
  induction is with
  | nil => cases hi
  | cons j is ih =>
    rw [names, List.map_cons, List.nodup_cons] at his
    rw [List.filterMap_cons]
    rcases List.mem_cons.1 hi with rfl | hi
    · by_cases hfails : i.Fails
      · rw [report?_of_fails hfails]
        exact (ValidationErrors.messagesOf_cons ..).trans (if_pos rfl)
      · rw [report?_eq_none_iff.2 hfails, messages_eq_nil_iff.2 hfails]
        exact messagesOf_reports_of_not_mem his.1
    · by_cases hfails : j.Fails
      · have hne : j.column.name ≠ i.column.name := fun hname => his.1 (hname ▸ List.mem_map_of_mem hi)
        rw [report?_of_fails hfails]
        exact (ValidationErrors.messagesOf_cons ..).trans ((if_neg hne).trans (ih his.2 hi))
      · rw [report?_eq_none_iff.2 hfails]
        exact ih his.2 hi

end Inspection

namespace Model

variable {m m' : Model} {c : Column} {row row' : Record}

/-- What is checked of a row to be inserted: all columns. There has to be a value where the engine brings none. -/
def inserted (m : Model) (row : Record) : List Inspection :=
  m.columns.map fun c => ⟨c, !c.nullable && c.default.isNone && !m.isGenerated c, row.cell c.name⟩

/-- What is checked of a row to be changed: the columns of its cells. -/
def changed (m : Model) (row : Record) : List Inspection :=
  row.filterMap fun e => (m.column? e.1).map fun c => ⟨c, !c.nullable, e.2⟩

theorem names_inserted (m : Model) (row : Record) : Inspection.names (m.inserted row) = m.columnNames := by
  rw [Inspection.names, inserted, List.map_map]
  rfl

theorem names_changed_sublist (m : Model) (row : Record) : (Inspection.names (m.changed row)).Sublist row.keys := by
  induction row with
  | nil => exact .slnil
  | cons e row ih =>
    rw [changed, List.filterMap_cons]
    cases hc : m.column? e.1 with
    | none => exact ih.cons _
    | some c =>
      have hname := name_of_column? hc
      rw [Option.map_some, Inspection.names, List.map_cons, hname]
      exact ih.cons_cons _

/-- A row to be inserted is reported column by column. -/
theorem validate_eq (hm : m.columnNames.Nodup) (row : Record) :
    m.validate row = (m.inserted row).filterMap Inspection.report? := by
  rw [inserted, List.filterMap_map]
  refine (ValidationErrors.foldl_pushAll (fun c => (m.columnViolations c row).map Violation.message) hm
    fun _ _ => List.not_mem_nil).trans ?_
  rw [List.nil_append]
  rfl

/-- A row to be changed is reported cell by cell. -/
theorem validatePartial_eq (m : Model) (hrow : Assoc.Distinct row) :
    m.validatePartial row = (m.changed row).filterMap Inspection.report? := by
  have hfold : m.validatePartial row =
      (m.changed row).foldl (fun errors i => ValidationErrors.pushAll errors i.column.name i.messages) [] := by
    rw [changed, List.foldl_filterMap, validatePartial]
    refine List.foldl_ext _ _ _ fun errors e _ => ?_
    cases m.column? e.1 <;> rfl
  rw [hfold]
  refine (ValidationErrors.foldl_pushAll Inspection.messages ((m.names_changed_sublist row).nodup hrow)
    fun _ _ => List.not_mem_nil).trans ?_
  rw [List.nil_append]
  rfl

theorem mem_inserted (hc : c ∈ m.columns) (row : Record) :
    ⟨c, !c.nullable && c.default.isNone && !m.isGenerated c, row.cell c.name⟩ ∈ m.inserted row :=
  List.mem_map.2 ⟨c, hc, rfl⟩

theorem mem_changed (hm : m.columnNames.Nodup) (hc : c ∈ m.columns) {v : Value} (hv : row.get? c.name = some v) :
    ⟨c, !c.nullable, v⟩ ∈ m.changed row :=
  List.mem_filterMap.2 ⟨(c.name, v), Assoc.mem_of_get? hv, by rw [column?, find?_name hm hc]; rfl⟩

theorem messagesOf_validate (hm : m.columnNames.Nodup) (hc : c ∈ m.columns) (row : Record) :
    (m.validate row).messagesOf c.name = (m.columnViolations c row).map Violation.message := by
  rw [validate_eq hm]
  exact Inspection.messagesOf_reports ((names_inserted m row).symm ▸ hm) (mem_inserted hc row)

theorem messagesOf_validatePartial (hm : m.columnNames.Nodup) (hrow : Assoc.Distinct row) (hc : c ∈ m.columns) :
    (m.validatePartial row).messagesOf c.name =
      match row.get? c.name with
      | some v => (cellViolations c v).map Violation.message
      | none => [] := by
  rw [validatePartial_eq m hrow]
  have hsub := m.names_changed_sublist row
  cases hv : row.get? c.name with
  | some v => exact Inspection.messagesOf_reports (hsub.nodup hrow) (mem_changed hm hc hv)
  | none => exact Inspection.messagesOf_reports_of_not_mem fun hin => Assoc.get?_eq_none_iff.1 hv (hsub.subset hin)

/-- Every failing column is reported, once and in its order, with all that is found for it; and what is reported for a
column depends on its own cell only, whatever else the row, and even the model, has. -/
theorem failures_reported (hm : m.columnNames.Nodup) :
    (∀ row, (m.validate row = [] ↔ ∀ i ∈ m.inserted row, ¬i.Fails) ∧ Reports (m.inserted row) (m.validate row)) ∧
    (∀ row, Assoc.Distinct row → (m.validatePartial row = [] ↔ ∀ i ∈ m.changed row, ¬i.Fails) ∧
      Reports (m.changed row) (m.validatePartial row)) ∧
    ∀ m' : Model, m'.columnNames.Nodup → ∀ c ∈ m.columns, c ∈ m'.columns →
      ((c.name = m.primaryKey ↔ c.name = m'.primaryKey) → ∀ row row' : Record, row.cell c.name = row'.cell c.name →
        (m.validate row).messagesOf c.name = (m'.validate row').messagesOf c.name) ∧
      ∀ row row', Assoc.Distinct row → Assoc.Distinct row' → row.get? c.name = row'.get? c.name →
        (m.validatePartial row).messagesOf c.name = (m'.validatePartial row').messagesOf c.name := by
  refine ⟨fun row => ?_, fun row hrow => ?_, fun m' hm' c hc hc' => ⟨fun hkey row row' hcell => ?_, ?_⟩⟩
  · rw [validate_eq hm]
    exact ⟨Inspection.reports_eq_nil_iff, Inspection.reports_filterMap ((names_inserted m row).symm ▸ hm)⟩
  · rw [validatePartial_eq m hrow]
    exact ⟨Inspection.reports_eq_nil_iff, Inspection.reports_filterMap ((m.names_changed_sublist row).nodup hrow)⟩
  · have hgenerated : m.isGenerated c = m'.isGenerated c := by
      rw [isGenerated, isGenerated, decide_eq_decide.2 hkey]
    rw [messagesOf_validate hm hc, messagesOf_validate hm' hc', columnViolations, columnViolations, hcell,
      absenceViolations, absenceViolations, hgenerated]
  · intro row row' hrow hrow' hcell
    rw [messagesOf_validatePartial hm hrow hc, messagesOf_validatePartial hm' hrow' hc', hcell]

end Model

namespace Sample

/-- The rule that says nothing. -/
def lenient : Rule :=
  ⟨none, none, none, none, none, none, none, none⟩

/-- Callers have a name, and a number at which they are called back. -/
def caller : Model :=
  { model "caller" "callers" [] [] false with
    columns := [
      { column "id" with kind := .id, nullable := false },
      { column "name" with kind := .string 8, rule := some { lenient with required := some true } },
      { column "number" with
        kind := .string 16, rule := some { lenient with format := some "mobile", minLength := some 7 } },
      { column "reason" with kind := .enum, options := ["order", "advice"] }] }

/-- A row with a failure in every column that callers give, and with a cell that no column is for. -/
def anonymous : Record :=
  [("reason", .text "gossip"), ("number", .text "12"), ("mood", .text "bad")]

/-- The number of a caller has two failures, and so it has with a name, and when it is all that is changed. -/
theorem anonymous_reported :
    Reports (caller.inserted anonymous)
        [⟨"name", ["is required"]⟩,
          ⟨"number", ["must be a valid mobile", "must be at least 7 characters"]⟩,
          ⟨"reason", ["must be one of: order, advice"]⟩] ∧
      Reports (caller.changed anonymous)
        [⟨"reason", ["must be one of: order, advice"]⟩,
          ⟨"number", ["must be a valid mobile", "must be at least 7 characters"]⟩] ∧
      (caller.validate (("name", .text "Ada") :: anonymous)).messagesOf "number" =
        ["must be a valid mobile", "must be at least 7 characters"] := by
  have hnames : caller.columnNames.Nodup := by decide
  have hrow : anonymous.keys.Nodup := by decide
  obtain ⟨hinserted, hchanged, halone⟩ := Model.failures_reported hnames
  refine ⟨(hinserted anonymous).2, (hchanged anonymous hrow).2, ?_⟩
  have hnumber : caller.columns[2] ∈ caller.columns := List.getElem_mem _
  exact (halone caller hnames _ hnumber hnumber).1 Iff.rfl _ anonymous rfl

end Sample

end DataModel

import DataModel.Proofs.Agreement
import DataModel.Proofs.HashText
import DataModel.Proofs.RoundTrip

/-!
# What is written and the columns it is written to

The cells of a row are checked after JSON texts are read, and before passwords are hashed and the times of writing are
set. So what was given passes the check of its column when it is written, and what is made after the check passes it
when the column is made for it: a hash is a text of sixty characters and nothing else, and the time of writing is the
text of an instant. A column of another kind, or with too short a length, gets them all the same.
-/

namespace DataModel

namespace Kind

variable {kind : Kind} {v : Value} {s : String}

/-- Whether a value passes the type check of a kind and, when it is a text, is not longer than the kind allows. -/
structure Holds (kind : Kind) (v : Value) : Prop where
  type : kind.accepts v = true
  length : ∀ limit s, kind.maxLength = some limit → v.text? = some s → s.length ≤ limit

/-- Whether a kind holds every text of so many characters. -/
def hasRoom (kind : Kind) (count : Nat) : Bool :=
  match kind with
  | json | text | enum | password => true
  | string limit | char limit => count ≤ limit
  | _ => false

theorem holds_text :
    kind.Holds (.text s) ↔ kind.accepts (.text s) = true ∧ ∀ limit, kind.maxLength = some limit → s.length ≤ limit := by
  refine ⟨fun h => ⟨h.type, fun limit hlimit => h.length limit s hlimit rfl⟩, fun h => ⟨h.1, ?_⟩⟩
  intro limit s' hlimit hs
  rw [← Option.some.inj hs]
  exact h.2 limit hlimit

/-- A text that is no UUID, date or time is held where there is room for it, and as a moment when it is one. -/
theorem holds_text_iff (huuid : Uuid.isUuid s = false) (hdate : Calendar.isDate s = false)
    (htime : Calendar.isTime s = false) :
    kind.Holds (.text s) ↔
      kind.hasRoom s.length = true ∨ (kind = .dateTime ∨ kind = .timestamp) ∧ Calendar.isMoment s = true := by
  rw [holds_text]
  cases kind <;> simp [accepts, maxLength, hasRoom, isTextual, huuid, hdate, htime]

end Kind

/-- A value that breaks no rule of a column is held by its kind. -/
theorem Column.holds_of_violations {c : Column} {v : Value} (h : c.violations v = []) : c.kind.Holds v := by
  unfold violations at h
  split at h
  next htype =>
    refine ⟨htype, fun limit s hlimit hs => ?_⟩
    have hlong : tooLongFor c.kind.maxLength v.text? = [] :=
      (List.append_eq_nil_iff.1 (List.append_eq_nil_iff.1 h).1).1
    rw [hlimit, hs, tooLongFor, violatedIf] at hlong
    simpa using hlong
  next => cases h

/-- Where the cell of a row that is written comes from: it was given, it is the hash of what was given, or it is the
time of writing. -/
inductive Origin where
  | given
  | hash
  | stamp
deriving DecidableEq, Repr

namespace Origin

/-- What a cell of a column is, in a row that is written for one that was given. -/
def Yields (origin : Origin) (sur : Surroundings) (c : Column) (row : Record) (v : Value) : Prop :=
  match origin with
  | given => ∃ old, row.get? c.name = some old ∧ v = Model.taken c.kind old
  | hash => ∃ old password hash, row.get? c.name = some old ∧ Model.taken c.kind old = .text password ∧
      PasswordHash.make? sur.hashCost sur.salt password = some hash ∧ v = .text hash
  | stamp => v = .text sur.now

/-- Whether a kind is made for cells of an origin, when the time of writing has so many characters. -/
def suits (origin : Origin) (stampLength : Nat) (kind : Kind) : Bool :=
  match origin with
  | given => true
  | hash => kind.hasRoom PasswordHash.textLength
  | stamp => kind.hasRoom stampLength || kind = .dateTime || kind = .timestamp

/-- A column holds hashes when it has room for their texts. -/
theorem holds_hash_iff {kind : Kind} {cost : Nat} {salt : List UInt8} {password hash : String}
    (hsalt : salt.length = PasswordHash.saltLength) (h : PasswordHash.make? cost salt password = some hash)
    (stampLength : Nat) : kind.Holds (.text hash) ↔ Origin.hash.suits stampLength kind = true := by
  rw [Kind.holds_text_iff (PasswordHash.isUuid_of_make? h) (PasswordHash.isDate_of_make? h)
    (PasswordHash.isTime_of_make? h), PasswordHash.isMoment_of_make? h, PasswordHash.length_of_make? hsalt h]
  simp only [suits, Bool.false_eq_true, and_false, or_false]

/-- A column holds the time of writing when it is one for moments or has room for its text. -/
theorem holds_stamp_iff (kind : Kind) (i : Calendar.Instant) :
    kind.Holds (.text i.text) ↔ stamp.suits i.text.length kind = true := by
  rw [Kind.holds_text_iff i.isUuid_text i.isDate_text i.isTime_text, i.isMoment_text]
  simp only [suits, and_true, Bool.or_eq_true, decide_eq_true_eq, or_assoc]

end Origin

namespace Model

variable {m : Model} {writing : Writing} {row hashed out : Record} {sur : Surroundings} {c : Column} {v : Value}

/-- The row that is validated when a row is written. -/
def checked (m : Model) (writing : Writing) (row : Record) : Record :=
  match writing with
  | .insert => m.withoutNullKey (m.known row)
  | .update => m.known row

/-- Whether the time of writing is set under a name. -/
def stamps (m : Model) (writing : Writing) (row : Record) (name : String) : Bool :=
  m.timestamps && (name = updatedAt || (name = createdAt && writing = .insert && !row.has createdAt))

/-- Where the cell of a column comes from when a row is written. -/
def origin (m : Model) (writing : Writing) (row : Record) (c : Column) : Origin :=
  if m.stamps writing (m.checked writing row) c.name then .stamp
  else if c.isPassword && (((m.checked writing row).get? c.name).bind Value.text?).isSome then .hash
  else .given

theorem cellViolations_of_ne_null (hv : v ≠ .null) : cellViolations c v = c.violations v := by
  cases v <;> first | exact absurd rfl hv | rfl

/-- A row that is written breaks no rule with what it was given, and is hashed and stamped after that. -/
theorem exists_of_prepared (h : m.prepare sur writing row = .ok out) :
    (∀ c, m.column? c.name = some c → ∀ v, (m.checked writing row).get? c.name = some v → v ≠ .null →
      c.violations v = []) ∧
      ∃ hashed, m.hashed sur m.columns (m.checked writing row) = .ok hashed ∧
        out = m.stamped writing sur.now hashed := by
  cases writing with
  | insert =>
    obtain ⟨hvalid, hrest⟩ := exists_of_prepare h
    refine ⟨fun c hc v hv hnull => ?_, hrest⟩
    have hcell : (m.withoutNullKey (m.known row)).cell c.name = v := by
      rw [Record.cell, show (m.withoutNullKey (m.known row)).get? c.name = some v from hv, Option.getD_some]
    rw [← cellViolations_of_ne_null hnull, ← hcell, ← columnViolations_of_ne_null (hcell ▸ hnull)]
    exact validate_eq_nil_iff.1 hvalid c (List.mem_of_find?_eq_some hc)
  | update =>
    obtain ⟨hvalid, hrest⟩ := exists_of_prepare_update h
    refine ⟨fun c hc v hv hnull => ?_, hrest⟩
    rw [← cellViolations_of_ne_null hnull]
    exact validatePartial_eq_nil_iff.1 hvalid _ (Assoc.mem_of_get? hv) c hc

/-- What is set when a row is written is the time of writing, and what is not set stays. -/
theorem get?_stamped_eq (m : Model) (writing : Writing) (now : String) (row : Record) (name : String) :
    (m.stamped writing now row).get? name =
      if m.stamps writing row name = true then some (.text now) else row.get? name := by
  cases htimes : m.timestamps with
  | false => simp [stamped, stamps, htimes]
  | true =>
    simp only [stamped, stamps, htimes, if_true, Bool.true_and, Assoc.get?_insert]
    by_cases hupdated : name = updatedAt
    · rw [if_pos hupdated.symm, if_pos (by simp [hupdated])]
    · rw [if_neg (Ne.symm hupdated), decide_eq_false hupdated, Bool.false_or]
      by_cases hmakes : writing = .insert ∧ ¬ row.has createdAt = true
      · rw [if_pos hmakes, Assoc.get?_insert]
        by_cases hcreated : name = createdAt
        · rw [if_pos hcreated.symm, if_pos (by simpa [hcreated] using hmakes)]
        · rw [if_neg (Ne.symm hcreated), if_neg (by simp [hcreated])]
      · rw [if_neg hmakes, if_neg]
        simp only [Bool.and_eq_true, Bool.not_eq_true', decide_eq_true_eq, ← Bool.not_eq_true]
        exact fun h => hmakes ⟨h.1.2, h.2⟩

theorem has_hashed {columns : List Column} (h : m.hashed sur columns row = .ok hashed) (name : String) :
    hashed.has name = row.has name := by
  have hsame := congrArg Option.isSome (null?_hashed h name)
  rwa [Record.null?, Record.null?, Option.isSome_map, Option.isSome_map] at hsame

theorem stamps_hashed {columns : List Column} (h : m.hashed sur columns row = .ok hashed) (name : String) :
    m.stamps writing hashed name = m.stamps writing row name := by
  rw [stamps, stamps, has_hashed h]

/-- What is validated is in the row as the model knows it. -/
theorem mem_known_of_checked {e : String × Value} (h : e ∈ m.checked writing row) : e ∈ m.known row := by
  cases writing with
  | update => exact h
  | insert =>
    simp only [checked, withoutNullKey] at h
    split at h
    · exact Assoc.mem_of_mem_erase h
    · exact h

/-- A cell of a row that is written was given, unless it is made: what was given is held by its column, a hash is the
hash of what was given, and a stamp is the time of writing. -/
theorem Coherent.cell_of_prepare (hm : m.Coherent) (hrow : Assoc.Distinct row)
    (h : m.prepare sur writing row = .ok out) (hc : c ∈ m.columns) (hv : out.get? c.name = some v) :
    (m.origin writing row c).Yields sur c row v ∧ (m.origin writing row c = .given → v ≠ .null → c.kind.Holds v) := by
  obtain ⟨hvalid, hashed, hhashed, rfl⟩ := exists_of_prepared h
  rw [get?_stamped_eq, stamps_hashed hhashed] at hv
  unfold origin
  split at hv
  next hstamp =>
    rw [if_pos hstamp]
    exact ⟨(Option.some.inj hv).symm, fun hgiven => by cases hgiven⟩
  next hstamp =>
    rw [get?_hashed hm.names hhashed hc] at hv
    obtain ⟨valid, hchecked, hv⟩ := Option.bind_eq_some_iff.1 hv
    obtain ⟨old, hold, rfl⟩ : ∃ old, row.get? c.name = some old ∧ taken c.kind old = valid := by
      rw [← Option.map_eq_some_iff, ← get?_known (hm.column?_eq hc)]
      exact (distinct_known hrow).get?_eq (mem_known_of_checked (Assoc.mem_of_get? hchecked))
    rw [if_neg hstamp, hchecked, Option.bind_some]
    by_cases hhash : c.isPassword = true ∧ (taken c.kind old).text?.isSome = true
    · obtain ⟨password, hpassword⟩ := Option.isSome_iff_exists.1 hhash.2
      have htext : taken c.kind old = .text password := Inspection.text?_eq_some_iff.1 hpassword
      rw [htext, hashedFor?, if_pos hhash.1, Option.map_eq_some_iff] at hv
      obtain ⟨hash, hmake, rfl⟩ := hv
      rw [if_pos (by simpa using hhash)]
      exact ⟨⟨old, password, hash, hold, htext, hmake, rfl⟩, fun hgiven => by cases hgiven⟩
    · have hsame : hashedFor? sur c (taken c.kind old) = some (taken c.kind old) := by
        cases hvalue : taken c.kind old <;> simp_all [hashedFor?, Value.text?]
      rw [hsame, Option.some.injEq] at hv
      rw [if_neg (by simpa using hhash)]
      refine ⟨⟨old, hold, hv.symm⟩, fun _ hnull => ?_⟩
      exact Column.holds_of_violations (hvalid c (hm.column?_eq hc) v (hv ▸ hchecked) hnull)

/-- A row that is written has the cells it is validated with, and the times of writing. -/
theorem has_of_prepare (h : m.prepare sur writing row = .ok out) (name : String) :
    out.has name = (m.stamps writing (m.checked writing row) name || (m.checked writing row).has name) := by
  obtain ⟨-, hashed, hhashed, rfl⟩ := exists_of_prepared h
  rw [Assoc.has, get?_stamped_eq, stamps_hashed hhashed, ← has_hashed hhashed]
  split
  next hstamp => rw [hstamp, Option.isSome_some, Bool.true_or]
  next hstamp => rw [Bool.eq_false_iff.2 hstamp, Bool.false_or, Assoc.has]

/-- A row that is written has a cell for each column for which one is made. -/
theorem Coherent.exists_cell_of_prepare (hm : m.Coherent) (hrow : Assoc.Distinct row)
    (h : m.prepare sur writing row = .ok out) (hc : c ∈ m.columns) (horigin : m.origin writing row c ≠ .given) :
    ∃ v, out.get? c.name = some v ∧ (m.origin writing row c).Yields sur c row v := by
  have hhas : out.has c.name = true := by
    rw [has_of_prepare h]
    by_contra hnone
    rw [Bool.not_eq_true, Bool.or_eq_false_iff, Assoc.has, Option.isSome_eq_false_iff,
      Option.isNone_iff_eq_none] at hnone
    refine horigin ?_
    rw [origin, hnone.1, hnone.2, Option.bind_none, Option.isSome_none, Bool.and_false, if_neg Bool.false_ne_true,
      if_neg Bool.false_ne_true]
  obtain ⟨v, hv⟩ := Option.isSome_iff_exists.1 hhas
  exact ⟨v, hv, (hm.cell_of_prepare hrow h hc hv).1⟩

/-- When the cost of hashes is allowed, every text is hashed. -/
theorem exists_hashed (hcost : PasswordHash.isCost sur.hashCost = true) (columns : List Column) (row : Record) :
    ∃ hashed, m.hashed sur columns row = .ok hashed := by
  induction columns generalizing row with
  | nil => exact ⟨row, rfl⟩
  | cons c columns ih =>
    unfold Model.hashed
    split
    · split
      next password _ =>
        obtain ⟨hash, hmake⟩ := PasswordHash.exists_make? hcost sur.salt password
        rw [hmake]
        exact ih _
      next => exact ih row
    · exact ih row

/-- When the cost of hashes is allowed, a row that passes validation is prepared. -/
theorem exists_prepare (hcost : PasswordHash.isCost sur.hashCost = true) {valid : Record}
    (hvalid : m.validated writing (m.known row) = .ok valid) : ∃ out, m.prepare sur writing row = .ok out := by
  obtain ⟨hashed, hhashed⟩ := m.exists_hashed hcost m.columns valid
  exact ⟨_, bind_eq_ok_iff.2 ⟨valid, hvalid, bind_eq_ok_iff.2 ⟨hashed, hhashed, rfl⟩⟩⟩

/-- A row that is prepared has the cells it was validated with and the times of writing, all of them of columns of the
model. Each that is no null is held by its column when the column is made for what it comes from: always when it was
given, when there is room for a hash when it was hashed, and when there is room for the time of writing, or the column
is one for moments, when it was stamped. The time of writing is that of an instant, and hashes are made with a salt of
the length they need. -/
theorem prepared_cells_hold_iff {name source : String} {declared : Metadata}
    (hresolve : resolve name source declared = .ok m) (hsalt : sur.salt.length = PasswordHash.saltLength)
    {i : Calendar.Instant} (hnow : sur.now = i.text) (hrow : Assoc.Distinct row)
    (h : m.prepare sur writing row = .ok out) :
    (∀ key ∈ out.keys, key ∈ m.columnNames) ∧
      (∀ key, out.has key = (m.stamps writing (m.checked writing row) key || (m.checked writing row).has key)) ∧
      ∀ c ∈ m.columns, ∀ v, out.get? c.name = some v → v ≠ .null →
        (m.origin writing row c).Yields sur c row v ∧
          (c.kind.Holds v ↔ (m.origin writing row c).suits sur.now.length c.kind = true) := by
  have hm := completed_of_resolved hresolve
  refine ⟨fun key hkey => hm.mem_columnNames_of_prepare h hkey, has_of_prepare h, fun c hc v hv hnull => ?_⟩
  obtain ⟨hyields, hgiven⟩ := hm.toCoherent.cell_of_prepare hrow h hc hv
  refine ⟨hyields, ?_⟩
  cases horigin : m.origin writing row c with
  | given => exact iff_of_true (hgiven horigin hnull) rfl
  | hash =>
    rw [horigin] at hyields
    obtain ⟨old, password, hash, -, -, hmake, rfl⟩ := hyields
    exact Origin.holds_hash_iff hsalt hmake _
  | stamp =>
    rw [horigin] at hyields
    rw [show v = .text sur.now from hyields, hnow]
    exact Origin.holds_stamp_iff c.kind i

end Model

namespace Sample

/-- A safe has a secret and a code that are hashed, and a list of what is in it. Its secret is short, and it is said
by a number when it was changed. -/
def declaredSafe : Metadata :=
  { name := "safe"
    table := ⟨"safes", none⟩
    columns :=
      [{ ColumnDeclaration.added "secret" "string" false with length := some 20, crypt := some .password },
        .added "code" "password" true, .added "contents" "json" true, .added updatedAt "integer" true]
    relations := []
    options := ⟨true, false⟩ }

def safe : Model :=
  resolved declaredSafe

theorem resolve_safe : Model.resolve "safe" "" declaredSafe = .ok safe := rfl

/-- The morning on which the first safe is made. -/
def morning : Calendar.Instant where
  year := 2025
  month := 1
  day := 31
  hour := 8
  minute := 30
  second := 0
  fraction := ['2', '5']
  short := by decide
  date := by decide
  time := by decide
  digits := List.all_eq_true.1 rfl

def safekeeping : Surroundings :=
  ⟨morning.text, List.replicate PasswordHash.saltLength 7, PasswordHash.leastCost⟩

/-- A row for a safe with all that may be said of it, and with something that may not. -/
def firstSafe : Record :=
  [("owner", .text "Ada"), ("secret", .text "open sesame"), ("code", .text "1234"), ("contents", .text "[2]")]

theorem validated_firstSafe :
    safe.validated .insert (safe.known firstSafe) =
      .ok [("secret", .text "open sesame"), ("code", .text "1234"), ("contents", .list [.int 2])] := rfl

theorem exists_prepare_firstSafe : ∃ out, safe.prepare safekeeping .insert firstSafe = .ok out :=
  Model.exists_prepare (by decide) validated_firstSafe

/-- All columns of the safe but its key are written, and they hold what is written to them but for the secret and the
time of writing. -/
theorem firstSafe_held :
    ∃ out, safe.prepare safekeeping .insert firstSafe = .ok out ∧ (∀ key ∈ out.keys, key ∈ safe.columnNames) ∧
      (∀ c ∈ safe.columns, out.has c.name = true ↔ c.name ≠ "id") ∧
      ∀ c ∈ safe.columns, ∀ v, out.get? c.name = some v → v ≠ .null →
        (c.kind.Holds v ↔ c.name ≠ "secret" ∧ c.name ≠ "updated_at") := by
  obtain ⟨out, hout⟩ := exists_prepare_firstSafe
  obtain ⟨hkeys, hhas, hcells⟩ := Model.prepared_cells_hold_iff resolve_safe (by decide)
    (rfl : safekeeping.now = morning.text) (by decide : firstSafe.keys.Nodup) hout
  have hsuits : ∀ c ∈ safe.columns, (safe.origin .insert firstSafe c).suits safekeeping.now.length c.kind = true ↔
      c.name ≠ "secret" ∧ c.name ≠ "updated_at" := by decide
  have hwritten : ∀ c ∈ safe.columns, (safe.stamps .insert (safe.checked .insert firstSafe) c.name ||
      (safe.checked .insert firstSafe).has c.name) = true ↔ c.name ≠ "id" := by decide
  refine ⟨out, hout, hkeys, fun c hc => ?_, fun c hc v hv hnull => (hcells c hc v hv hnull).2.trans (hsuits c hc)⟩
  rw [hhas]
  exact hwritten c hc

/-- The hash of the secret is longer than a secret may be, and the time of writing is no number. -/
theorem secret_and_time_not_held :
    ∃ out, safe.prepare safekeeping .insert firstSafe = .ok out ∧
      (∃ c ∈ safe.columns, c.name = "secret" ∧ ∃ v, out.get? c.name = some v ∧ v ≠ .null ∧ ¬ c.kind.Holds v) ∧
      ∃ c ∈ safe.columns, c.name = "updated_at" ∧ ∃ v, out.get? c.name = some v ∧ v ≠ .null ∧ ¬ c.kind.Holds v := by
  have hcoherent := Model.coherent_of_resolved resolve_safe
  have hdistinct : firstSafe.keys.Nodup := by decide
  have hsecret : ∃ c ∈ safe.columns, c.name = "secret" ∧ safe.origin .insert firstSafe c = .hash ∧
      Origin.hash.suits 0 c.kind = false := by decide
  have hchanged : ∃ c ∈ safe.columns, c.name = "updated_at" ∧ safe.origin .insert firstSafe c = .stamp ∧
      Origin.stamp.suits morning.text.length c.kind = false := by decide
  obtain ⟨out, hout⟩ := exists_prepare_firstSafe
  refine ⟨out, hout, ?_, ?_⟩
  · obtain ⟨c, hc, hname, horigin, hsuits⟩ := hsecret
    obtain ⟨v, hv, hyields⟩ := hcoherent.exists_cell_of_prepare hdistinct hout hc (horigin ▸ nofun)
    rw [horigin] at hyields
    obtain ⟨old, password, hash, -, -, hmake, rfl⟩ := hyields
    refine ⟨c, hc, hname, .text hash, hv, nofun, ?_⟩
    rw [Origin.holds_hash_iff (by decide) hmake 0, hsuits]
    exact Bool.false_ne_true
  · obtain ⟨c, hc, hname, horigin, hsuits⟩ := hchanged
    obtain ⟨v, hv, hyields⟩ := hcoherent.exists_cell_of_prepare hdistinct hout hc (horigin ▸ nofun)
    rw [horigin] at hyields
    obtain rfl : v = .text morning.text := hyields
    refine ⟨c, hc, hname, .text morning.text, hv, nofun, ?_⟩
    rw [Origin.holds_stamp_iff, hsuits]
    exact Bool.false_ne_true

end Sample

end DataModel

import DataModel.Proofs.Resolution

/-!
# Asking for fewer keys

An eager-load fetches the related rows of all parents at once. When nothing below it has a window, and rows
are matched by integers, asking for fewer keys gives the same rows with those of the other keys left out,
eager-loads and all: filtering, sorting, projecting and stitching each commute with leaving rows out, and so
does the whole recursion (`Library.divides_resolve`).
-/

namespace DataModel

namespace Stitch

/-- Leaving out the rows of other keys keeps the rows of a key. -/
theorem withKey_filter_isKeyed {column : String} {keys : List Value} {key : Option String}
    (h : ∀ k, key = some k → ∃ v ∈ keys, v.key = some k) (rows : List Record) :
    withKey column key (rows.filter (isKeyed column keys)) = withKey column key rows := by
  cases key with
  | none => rfl
  | some k =>
    rw [withKey, withKey, List.filter_filter]
    refine List.filter_congr fun row _ => ?_
    by_cases hk : keyAt column row = some k
    · have hkeyed : isKeyed column keys row = true := isKeyed_iff.2 ⟨k, hk, h k rfl⟩
      simp [hk, hkeyed]
    · simp [hk]

theorem filter_isKeyed_filter {column : String} {keys keys' : List Value}
    (h : KeysAmong keys' keys) (rows : List Record) :
    (rows.filter (isKeyed column keys)).filter (isKeyed column keys') = rows.filter (isKeyed column keys') := by
  rw [List.filter_filter]
  refine List.filter_congr fun row _ => ?_
  cases hk : isKeyed column keys' row with
  | false => rfl
  | true => rw [isKeyed_mono h hk]; rfl

end Stitch

namespace Library

variable {l : Library}

theorem links_eq_ok_iff {pivot : Pivot} {keys : List Value} {links : List Record} (hk : keys ≠ []) :
    l.links pivot keys = .ok links ↔
      ∃ t, l.store.tables.get? pivot.table = some t ∧ t.hasColumn pivot.localKey = true ∧
        links = t.rows.filter fun row => Operator.isIn.holds (row.cell pivot.localKey) (.list keys) := by
  have hp : ∀ row : Record, row.passes [.compare pivot.localKey .isIn (.list keys)] =
      Operator.isIn.holds (row.cell pivot.localKey) (.list keys) := fun row => by
    simp [Record.passes, Where.verdicts?_compare, Conjunction.join]
  rw [Library.links, if_neg (by simpa using hk), ofStore_eq_ok_iff, select_eq_ok_iff]
  refine exists_congr fun t => and_congr_right fun _ => ?_
  rw [Table.select_eq_ok_iff]
  have hrows : ∀ rows : List Record, rows.map (Table.project []) = rows := fun rows => List.map_id rows
  simp only [Selection.ofFilter, Where.compare, Table.columnsOfAll, Table.columnsOf, List.append_nil,
    List.forall_mem_singleton, List.not_mem_nil, false_imp_iff, implies_true, true_and, hrows]
  refine and_congr_right fun _ => ?_
  rw [← List.filter_congr fun row _ => hp row]
  rfl

theorem links_sublist {pivot : Pivot} {keys : List Value} {links : List Record} (h : l.links pivot keys = .ok links) :
    links.Sublist (l.rowsOf pivot.table) := by
  by_cases hk : keys = []
  · subst hk
    rw [ok_eq_ok_iff.1 (h : (.ok [] : Except ModelError _) = .ok links)]
    exact List.nil_sublist _
  · obtain ⟨t, ht, -, rfl⟩ := (links_eq_ok_iff hk).1 h
    rw [rowsOf_eq ht]
    exact List.filter_sublist

/-- The rows that link parents are the rows of the pivot table whose key is among those of the parents. -/
theorem links_eq_filter {pivot : Pivot} {keys : List Value} {links : List Record}
    (hcells : ∀ row ∈ l.rowsOf pivot.table, (row.cell pivot.localKey).isKeyCell = true)
    (hkeys : ∀ v ∈ keys, v.isKeyCell = true) (h : l.links pivot keys = .ok links) :
    links = (l.rowsOf pivot.table).filter (Stitch.isKeyed pivot.localKey keys) := by
  by_cases hk : keys = []
  · subst hk
    rw [ok_eq_ok_iff.1 (h : (.ok [] : Except ModelError _) = .ok links)]
    exact (List.filter_eq_nil_iff.2 fun row _ => by simp [Stitch.isKeyed_nil]).symm
  · obtain ⟨t, ht, -, rfl⟩ := (links_eq_ok_iff hk).1 h
    rw [rowsOf_eq ht] at hcells ⊢
    exact List.filter_congr fun row hrow => Stitch.holds_isIn (hcells row hrow) hkeys

/-- The links of fewer keys are the links with one of those. -/
theorem links_narrow {pivot : Pivot} {keys keys' : List Value} {links : List Record}
    (hcells : ∀ row ∈ l.rowsOf pivot.table, (row.cell pivot.localKey).isKeyCell = true)
    (hkeys : ∀ v ∈ keys, v.isKeyCell = true) (hkeys' : ∀ v ∈ keys', v.isKeyCell = true)
    (hsub : Stitch.KeysAmong keys' keys) (h : l.links pivot keys = .ok links) :
    l.links pivot keys' = .ok (links.filter (Stitch.isKeyed pivot.localKey keys')) := by
  obtain ⟨links', h'⟩ : ∃ links', l.links pivot keys' = .ok links' := by
    by_cases hk' : keys' = []
    · exact ⟨[], by rw [hk']; rfl⟩
    · obtain ⟨t, ht, hcol, -⟩ := (links_eq_ok_iff fun hk => hk' (hk ▸ hsub).eq_nil).1 h
      exact ⟨_, (links_eq_ok_iff hk').2 ⟨t, ht, hcol, rfl⟩⟩
  rw [h', links_eq_filter hcells hkeys' h', links_eq_filter hcells hkeys h, Stitch.filter_isKeyed_filter hsub]

/-- The stored rows that a request admits. -/
def admitted (l : Library) (m : Model) (q : Descriptor) : List Record :=
  (l.rowsOf m.tableName).filter (m.admits q)

/-- The keys that the related rows of some rows are asked for by. -/
def keysFor (l : Library) (r : Relation) (rows : List Record) : List Value :=
  match r.kind, r.pivot with
  | .manyToMany, some pivot =>
    Stitch.keysIn pivot.foreignKey
      ((l.rowsOf pivot.table).filter (Stitch.isKeyed pivot.localKey (Stitch.keysIn r.localKey rows)))
  | _, _ => Stitch.keysIn r.localKey rows

theorem keysFor_of_ne {r : Relation} (hk : r.kind ≠ .manyToMany) (rows : List Record) :
    l.keysFor r rows = Stitch.keysIn r.localKey rows := by
  unfold keysFor
  split
  next hkind _ => exact absurd hkind hk
  next => rfl

theorem keysFor_manyToMany {r : Relation} {pivot : Pivot} (hk : r.kind = .manyToMany)
    (hp : r.pivot = some pivot) (rows : List Record) :
    l.keysFor r rows = Stitch.keysIn pivot.foreignKey
      ((l.rowsOf pivot.table).filter (Stitch.isKeyed pivot.localKey (Stitch.keysIn r.localKey rows))) := by
  rw [keysFor, hk, hp]

/-- Rows whose local keys other rows have as well ask for no keys beyond theirs. -/
theorem keysAmong_keysFor {r : Relation} {rows others : List Record}
    (h : ∀ row ∈ rows, ∃ other ∈ others, other.cell r.localKey = row.cell r.localKey) :
    Stitch.KeysAmong (l.keysFor r rows) (l.keysFor r others) := by
  have hlocals := Stitch.keysAmong_keysIn h
  unfold keysFor
  split
  next pivot _ _ =>
    refine Stitch.keysAmong_keysIn fun link hlink => ⟨link, ?_, rfl⟩
    obtain ⟨hstored, hkeyed⟩ := List.mem_filter.1 hlink
    exact List.mem_filter.2 ⟨hstored, Stitch.isKeyed_mono hlocals hkeyed⟩
  next => exact hlocals

/-- The requests on the way down the eager-loads of a request, itself included. Each asks for the keys that
the rows above it may have. -/
inductive Nested (l : Library) : Model → Descriptor → Model → Descriptor → Prop
  | here {m : Model} {q : Descriptor} : Nested l m q m q
  | through {m other m' : Model} {q sub q' : Descriptor} {load : String × With Descriptor} {r : Relation}
      (hload : load ∈ q.withs) (hl : l.Loads m load r other sub)
      (h : Nested l other (sub.forKeys r.foreignKey (l.keysFor r (l.admitted m q))) m' q') : Nested l m q m' q'

/-- Whether the cells that an eager-load matches by are integers or null: the local keys of some rows, the
foreign keys of the related rows, and both keys of the pivot, the second one where the pivot links one of
the rows. -/
structure KeyCells (l : Library) (rows : List Record) (r : Relation) (other : Model) (sub : Descriptor) :
    Prop where
  locals : ∀ row ∈ rows, (row.cell r.localKey).isKeyCell = true
  foreigns : ∀ row ∈ l.rowsOf other.tableName, other.admits sub row = true →
    (row.cell r.foreignKey).isKeyCell = true
  pivotLocals : ∀ p, r.kind = .manyToMany → r.pivot = some p →
    ∀ row ∈ l.rowsOf p.table, (row.cell p.localKey).isKeyCell = true
  pivotForeigns : ∀ p, r.kind = .manyToMany → r.pivot = some p →
    ∀ row ∈ l.rowsOf p.table, Stitch.isKeyed p.localKey (Stitch.keysIn r.localKey rows) row = true →
      (row.cell p.foreignKey).isKeyCell = true

namespace KeyCells

variable {r : Relation} {other : Model} {sub : Descriptor} {rows others : List Record}

/-- Rows whose local keys other rows have as well are matched by the same cells. -/
theorem of_cells (h : l.KeyCells others r other sub)
    (hrows : ∀ row ∈ rows, ∃ o ∈ others, o.cell r.localKey = row.cell r.localKey) :
    l.KeyCells rows r other sub where
  locals row hrow := by
    obtain ⟨o, ho, hcell⟩ := hrows row hrow
    rw [← hcell]
    exact h.locals o ho
  foreigns := h.foreigns
  pivotLocals := h.pivotLocals
  pivotForeigns p hk hp row hrow hkeyed :=
    h.pivotForeigns p hk hp row hrow (Stitch.isKeyed_mono (Stitch.keysAmong_keysIn hrows) hkeyed)

theorem isKeyCell_of_mem_keysFor (h : l.KeyCells rows r other sub) {v : Value} (hv : v ∈ l.keysFor r rows) :
    v.isKeyCell = true := by
  unfold keysFor at hv
  split at hv
  next p hk hp =>
    refine Stitch.isKeyCell_of_mem_keysIn (fun link hlink => ?_) hv
    obtain ⟨hstored, hkeyed⟩ := List.mem_filter.1 hlink
    exact h.pivotForeigns p hk hp link hstored hkeyed
  next => exact Stitch.isKeyCell_of_mem_keysIn h.locals hv

end KeyCells

/-- Whether one level of a request has no window, orders by no floats, and matches by integers. -/
structure Level (l : Library) (m : Model) (q : Descriptor) : Prop where
  limit : q.limit = none
  offset : q.offset = none
  orders : Record.AllExact q.orders (l.admitted m q)
  keys : ∀ load ∈ q.withs, ∀ r other sub, l.Loads m load r other sub → l.KeyCells (l.admitted m q) r other sub

/-- Whether every level of a request is without a window, orders by no floats, and matches by integers. -/
def Separable (l : Library) (m : Model) (q : Descriptor) : Prop :=
  ∀ m' q', l.Nested m q m' q' → l.Level m' q'

theorem Separable.level {m : Model} {q : Descriptor} (h : l.Separable m q) : l.Level m q :=
  h m q .here

theorem Separable.below {m other : Model} {q sub : Descriptor} {load : String × With Descriptor} {r : Relation}
    (h : l.Separable m q) (hload : load ∈ q.withs) (hl : l.Loads m load r other sub) :
    l.Separable other (sub.forKeys r.foreignKey (l.keysFor r (l.admitted m q))) :=
  fun m' q' hn => h m' q' (.through hload hl hn)

theorem separable_of_level {m : Model} {q : Descriptor} (h : l.Level m q)
    (hbelow : ∀ load ∈ q.withs, ∀ r other sub, l.Loads m load r other sub →
      l.Separable other (sub.forKeys r.foreignKey (l.keysFor r (l.admitted m q)))) : l.Separable m q := by
  intro m' q' hn
  cases hn with
  | here => exact h
  | through hload hl hn => exact hbelow _ hload _ _ _ hl m' q' hn

/-- A request without a window, without orders and without eager-loads is without any of these. -/
theorem separable_of_bare {m : Model} {q : Descriptor} (hlimit : q.limit = none) (hoffset : q.offset = none)
    (horders : q.orders = []) (hwiths : q.withs = []) : l.Separable m q := by
  have hnone : ∀ load, load ∉ q.withs := by simp [hwiths]
  refine separable_of_level ⟨hlimit, hoffset, ?_, fun load hload => absurd hload (hnone load)⟩ ?_
  · rw [horders]
    exact fun _ _ _ ho => absurd ho List.not_mem_nil
  · exact fun load hload => absurd hload (hnone load)

/-- A request that admits fewer rows and is the same otherwise keeps its level. -/
theorem Level.of_admitted {m : Model} {q q' : Descriptor} (h : l.Level m q) (hlimit : q'.limit = q.limit)
    (hoffset : q'.offset = q.offset) (horders : q'.orders = q.orders) (hwiths : q'.withs = q.withs)
    (hfewer : ∀ row ∈ l.admitted m q', row ∈ l.admitted m q) : l.Level m q' where
  limit := hlimit.trans h.limit
  offset := hoffset.trans h.offset
  orders row hrow o ho := h.orders row (hfewer row hrow) o (horders ▸ ho)
  keys load hload r other sub hl :=
    (h.keys load (hwiths ▸ hload) r other sub hl).of_cells fun row hrow => ⟨row, hfewer row hrow, rfl⟩

/-- Whether asking for fewer keys gives the rows of those keys, as long as no key is beyond some bound. -/
def Divides (read : Reader) (m : Model) (q : Descriptor) (column : String) (bound : List Value) : Prop :=
  ∀ keys keys' rows, (∀ v ∈ keys, v.isKeyCell = true) → (∀ v ∈ keys', v.isKeyCell = true) →
    Stitch.KeysAmong keys bound → Stitch.KeysAmong keys' keys → related read m q column keys = .ok rows →
      related read m q column keys' = .ok (rows.filter (Stitch.isKeyed column keys'))

theorem Divides.mono {read : Reader} {m : Model} {q : Descriptor} {column : String} {bound bound' : List Value}
    (h : Divides read m q column bound) (hb : Stitch.KeysAmong bound' bound) :
    Divides read m q column bound' :=
  fun keys keys' rows hkeys hkeys' hwithin => h keys keys' rows hkeys hkeys' (hwithin.trans hb)

theorem pivot_of_pivotOf {m : Model} {relation : String} {r : Relation} {pivot : Pivot}
    (h : m.pivotOf relation r = .ok pivot) : r.pivot = some pivot := by
  unfold Model.pivotOf at h
  cases hp : r.pivot with
  | none => simp [hp] at h
  | some p =>
    simp only [hp] at h
    split at h
    · cases h
    split at h
    · cases h
    · rw [ok_eq_ok_iff.1 h]

/-- Links of fewer keys, with the related rows of fewer keys, lead to the same rows. -/
theorem linked_narrow {pivot : Pivot} {column : String} {keys' : List Value} {links children : List Record}
    {key : Option String} (hkey : ∀ k, key = some k → ∃ v ∈ keys', v.key = some k) :
    ((Stitch.withKey pivot.localKey key (links.filter (Stitch.isKeyed pivot.localKey keys'))).flatMap fun link =>
      (Stitch.withKey column (Stitch.keyAt pivot.foreignKey link) (children.filter (Stitch.isKeyed column
        (Stitch.keysIn pivot.foreignKey (links.filter (Stitch.isKeyed pivot.localKey keys')))))).map fun child =>
          Value.map (Stitch.inlined pivot link child)) =
    (Stitch.withKey pivot.localKey key links).flatMap fun link =>
      (Stitch.withKey column (Stitch.keyAt pivot.foreignKey link) children).map fun child =>
        Value.map (Stitch.inlined pivot link child) := by
  rw [Stitch.withKey_filter_isKeyed hkey]
  refine List.flatMap_congr fun link hlink => ?_
  -- the key that a link leads to is among those that are still asked for, as the link is still there
  rw [Stitch.withKey_filter_isKeyed]
  intro k hk
  refine Stitch.exists_mem_keysIn.2 ⟨link, ?_, hk⟩
  rw [← Stitch.withKey_filter_isKeyed hkey] at hlink
  exact (Stitch.mem_withKey_iff.1 hlink).1

/-- For the keys that are left, an eager-load has the same. -/
theorem offer_narrow {read : Reader} {m other : Model} {relation : String} {r : Relation} {sub : Descriptor}
    {rows : List Record} {keys' : List Value} {value : Option String → Option Value}
    (hdiv : Divides read other sub r.foreignKey (l.keysFor r rows)) (hcells : l.KeyCells rows r other sub)
    (hsub : Stitch.KeysAmong keys' (Stitch.keysIn r.localKey rows)) (hkeys' : ∀ v ∈ keys', v.isKeyCell = true)
    (ho : l.offer read m relation r other sub (Stitch.keysIn r.localKey rows) = .ok value) :
    ∃ value', l.offer read m relation r other sub keys' = .ok value' ∧
      ∀ key, (∀ k, key = some k → ∃ v ∈ keys', v.key = some k) → value' key = value key := by
  have hkeys : ∀ v ∈ Stitch.keysIn r.localKey rows, v.isKeyCell = true := fun v hv =>
    Stitch.isKeyCell_of_mem_keysIn hcells.locals hv
  simp only [offer_eq_ok_iff]
  cases offer_eq_ok_iff.1 ho with
  | first hk hc =>
    rw [keysFor_of_ne (by simp [hk])] at hdiv
    refine ⟨_, .first hk (hdiv _ keys' _ hkeys hkeys' (.refl _) hsub hc), fun key hkey => ?_⟩
    rw [Stitch.withKey_filter_isKeyed hkey]
  | all hk hc =>
    rw [keysFor_of_ne (by simp [hk])] at hdiv
    refine ⟨_, .all hk (hdiv _ keys' _ hkeys hkeys' (.refl _) hsub hc), fun key hkey => ?_⟩
    rw [Stitch.withKey_filter_isKeyed hkey]
  | @linked pivot links children hk hp hl hc =>
    have hpivot := pivot_of_pivotOf hp
    have hlocals := hcells.pivotLocals pivot hk hpivot
    have hlinks := links_eq_filter hlocals hkeys hl
    have hl' := links_narrow hlocals hkeys hkeys' hsub hl
    have hstored : ∀ link ∈ links, (link.cell pivot.foreignKey).isKeyCell = true := fun link hlink => by
      rw [hlinks] at hlink
      obtain ⟨hmem, hkeyed⟩ := List.mem_filter.1 hlink
      exact hcells.pivotForeigns pivot hk hpivot link hmem hkeyed
    have hfewer : ∀ link ∈ links.filter (Stitch.isKeyed pivot.localKey keys'), link ∈ links := fun link hlink =>
      (List.mem_filter.1 hlink).1
    -- fewer links lead to fewer related rows, and those are divided again
    rw [keysFor_manyToMany hk hpivot, ← hlinks] at hdiv
    have hchildren := hdiv _ (Stitch.keysIn pivot.foreignKey (links.filter (Stitch.isKeyed pivot.localKey keys')))
      children (fun v hv => Stitch.isKeyCell_of_mem_keysIn hstored hv)
      (fun v hv => Stitch.isKeyCell_of_mem_keysIn (fun link hlink => hstored link (hfewer link hlink)) hv)
      (.refl _) (Stitch.keysAmong_keysIn fun link hlink => ⟨link, hfewer link hlink, rfl⟩) hc
    refine ⟨_, .linked hk hp hl' hchildren, fun key hkey => ?_⟩
    rw [linked_narrow hkey]

/-- The plan for rows restricts to one for fewer of them, which decorates those alike. -/
theorem Planned.narrow {read : List Link → Reader} {chain : List Link} {m : Model} {base base' : List Record}
    {loads : List (String × With Descriptor)} {plan : List Stitch.Attachment}
    (hp : Planned l read chain m base loads plan)
    (hdiv : ∀ load ∈ loads, ∀ r other sub, l.Loads m load r other sub → other.hasColumn r.foreignKey = true →
      Divides (read (chain ++ [⟨m.name, Descriptor.relationName load⟩])) other sub r.foreignKey
        (l.keysFor r base))
    (hcells : ∀ load ∈ loads, ∀ r other sub, l.Loads m load r other sub → l.KeyCells base r other sub)
    (hfewer : ∀ row ∈ base', row ∈ base) :
    ∃ plan', Planned l read chain m base' loads plan' ∧ ∀ row ∈ base',
      (plan'.filterMap fun a => a.pair? row) = plan.filterMap fun a => a.pair? row := by
  induction hp with
  | done => exact ⟨[], .done, fun _ _ => rfl⟩
  | skip hname hrelation _ ih =>
    obtain ⟨plan', hp', hsame⟩ := ih (fun load hmem => hdiv load (List.mem_cons_of_mem _ hmem))
      fun load hmem => hcells load (List.mem_cons_of_mem _ hmem)
    exact ⟨plan', .skip hname hrelation hp', hsame⟩
  | @follow load _ plan r other sub value hname hl hchain hlocal hforeign hoffer _ ih =>
    obtain ⟨plan', hp', hsame⟩ := ih (fun load hmem => hdiv load (List.mem_cons_of_mem _ hmem))
      fun load hmem => hcells load (List.mem_cons_of_mem _ hmem)
    have hkc := hcells load List.mem_cons_self r other sub hl
    have hkeys' : ∀ v ∈ Stitch.keysIn r.localKey base', v.isKeyCell = true := fun v hv =>
      Stitch.isKeyCell_of_mem_keysIn (fun row hrow => hkc.locals row (hfewer row hrow)) hv
    obtain ⟨value', hoffer', hvalue⟩ := offer_narrow (hdiv load List.mem_cons_self r other sub hl hforeign) hkc
      (Stitch.keysAmong_keysIn fun row hrow => ⟨row, hfewer row hrow, rfl⟩) hkeys' hoffer
    refine ⟨_, .follow hname hl hchain hlocal hforeign hoffer' hp', fun row hrow => ?_⟩
    have hpair : Stitch.Attachment.pair? ⟨load.1, r.localKey, value'⟩ row =
        Stitch.Attachment.pair? ⟨load.1, r.localKey, value⟩ row := by
      have hv := hvalue (Stitch.keyAt r.localKey row) fun k hk => Stitch.exists_mem_keysIn.2 ⟨row, hrow, hk⟩
      simp only [Stitch.Attachment.pair?, hv]
    rw [List.filterMap_cons, List.filterMap_cons, hpair, hsame row hrow]

theorem select_forKeys (q : Descriptor) (column : String) (keys : List Value) :
    (q.forKeys column keys).select =
      if q.select = [] ∨ column ∈ q.select then q.select else q.select ++ [column] := by
  simp [Descriptor.forKeys, Descriptor.selecting]

/-- A request for keys asks for what the request asks for, and for the key. -/
theorem mem_select_forKeys {q : Descriptor} {column c : String} (keys : List Value)
    (h : q.select = [] ∨ c ∈ q.select ∨ c = column) :
    (q.forKeys column keys).select = [] ∨ c ∈ (q.forKeys column keys).select := by
  rw [select_forKeys]
  split
  next hs =>
    rcases h with h | h | rfl
    · exact Or.inl h
    · exact Or.inr h
    · exact hs
  next hs =>
    rw [not_or] at hs
    rcases h with h | h | rfl
    · exact absurd h hs.1
    · exact Or.inr (List.mem_append_left _ h)
    · exact Or.inr (List.mem_append_right _ List.mem_cons_self)

/-- A request that asks for a column has it among its columns. -/
theorem mem_columnsFor {q : Descriptor} {column : String} (m : Model) (h : q.select = [] ∨ column ∈ q.select) :
    q.columnsFor m = [] ∨ column ∈ q.columnsFor m := by
  rw [Descriptor.columnsFor, Model.withKeys_eq]
  rcases h with hs | hs
  · exact Or.inl (if_pos hs)
  · rw [if_neg (List.ne_nil_of_mem hs)]
    exact Or.inr (List.mem_append_left _ hs)

/-- Whether a request finds those rows of another that satisfy a condition, and is the same otherwise. -/
structure Narrows (l : Library) (m : Model) (q q' : Descriptor) (p : Record → Bool) : Prop where
  select : q'.select = q.select
  orders : q'.orders = q.orders
  withs : q'.withs = q.withs
  limit : q'.limit = none
  offset : q'.offset = none
  admits : ∀ row ∈ l.rowsOf m.tableName, m.admits q' row = (m.admits q row && p row)
  asks : ∀ t, l.store.tables.get? m.tableName = some t → m.CanAsk t q → m.CanAsk t q'

section Narrowing

variable {m : Model} {q q' : Descriptor} {column : String} {keys keys' : List Value}

/-- Without windows the rows that the narrower request finds are those that satisfy the condition. -/
theorem Narrows.found {p : Record → Bool} (h : l.Narrows m q q' p) (hlevel : l.Level m q) :
    l.found m q' = (l.found m q).filter p := by
  have hsplit : (l.rowsOf m.tableName).filter (m.admits q') = (l.admitted m q).filter p := by
    rw [admitted, List.filter_filter]
    refine List.filter_congr fun row hrow => ?_
    rw [h.admits row hrow, Bool.and_comm]
  rw [Library.found, h.limit, h.offset, h.orders, hsplit, Record.sortedBy_filter hlevel.orders.ranked, Library.found,
    hlevel.limit, hlevel.offset]
  rfl

theorem Narrows.read {base : List Record} (h : l.Narrows m q q' (Stitch.isKeyed column keys'))
    (hlevel : l.Level m q) (hcolumn : q.select = [] ∨ column ∈ q.select) (hb : l.read m q = .ok base) :
    l.read m q' = .ok (base.filter (Stitch.isKeyed column keys')) := by
  obtain ⟨t, ht, hcan, rfl⟩ := read_eq_ok_iff.1 hb
  have hcolumns : q'.columnsFor m = q.columnsFor m := by
    rw [Descriptor.columnsFor, Descriptor.neededKeys, h.select, h.withs]
    rfl
  refine read_eq_ok_iff.2 ⟨t, ht, h.asks t ht hcan, ?_⟩
  rw [h.found hlevel, List.filter_map, hcolumns]
  refine congrArg _ (List.filter_congr fun row _ => ?_)
  refine (Stitch.isKeyed_congr ?_).symm
  rw [Stitch.keyAt_eq, Stitch.keyAt_eq, Table.cell_project (mem_columnsFor m hcolumn)]

/-- The local keys of the rows that were read are those of stored rows that the request admits. -/
theorem locals_of_read {base : List Record} (hb : l.read m q = .ok base) {load : String × With Descriptor}
    (hload : load ∈ q.withs) {r : Relation} (hr : m.relation? (Descriptor.relationName load) = some r) :
    ∀ row ∈ base, ∃ source ∈ l.admitted m q, source.cell r.localKey = row.cell r.localKey := by
  obtain ⟨t, ht, hcan, rfl⟩ := read_eq_ok_iff.1 hb
  intro row hrow
  obtain ⟨source, hsource, rfl⟩ := List.mem_map.1 hrow
  refine ⟨source, List.mem_filter.2 (mem_found hsource), ?_⟩
  rw [Table.cell_project (Descriptor.localKey_mem_columnsFor hload hr)]

/-- The answer of the narrower request is the answer with the rows of other keys left out, when that is so
below it. -/
theorem Narrows.resolve {depth : Nat} {chain : List Link} {rows : List Record}
    (h : l.Narrows m q q' (Stitch.isKeyed column keys')) (hlevel : l.Level m q)
    (hcol : m.hasColumn column = true) (hcolumn : q.select = [] ∨ column ∈ q.select)
    (hdiv : ∀ load ∈ q.withs, ∀ r other sub, l.Loads m load r other sub → other.hasColumn r.foreignKey = true →
      Divides (l.resolve depth (chain ++ [⟨m.name, Descriptor.relationName load⟩])) other sub r.foreignKey
        (l.keysFor r (l.admitted m q)))
    (hr : l.resolve (depth + 1) chain m q = .ok rows) :
    l.resolve (depth + 1) chain m q' = .ok (rows.filter (Stitch.isKeyed column keys')) := by
  obtain ⟨base, plan, hb, hp, rfl⟩ := resolve_succ_eq_ok_iff.1 hr
  -- the rows that were read have the local keys of admitted ones, so all about those holds of them
  have hkc : ∀ load ∈ q.withs, ∀ r other sub, l.Loads m load r other sub → l.KeyCells base r other sub :=
    fun load hload r other sub hl =>
      (hlevel.keys load hload r other sub hl).of_cells (locals_of_read hb hload hl.relation)
  obtain ⟨plan', hp', hsame⟩ := hp.narrow
    (fun load hload r other sub hl hforeign =>
      (hdiv load hload r other sub hl hforeign).mono (keysAmong_keysFor (locals_of_read hb hload hl.relation)))
    hkc fun row hrow => (List.mem_filter.1 hrow).1
  rw [← h.withs] at hp'
  refine resolve_succ_eq_ok_iff.2 ⟨_, plan', h.read hlevel hcolumn hb, hp', ?_⟩
  -- eager-loads leave the key alone, so it makes no difference when the other rows are left out
  have hkeyed : ∀ row ∈ base, (Stitch.isKeyed column keys' ∘ Stitch.decorate plan) row =
      Stitch.isKeyed column keys' row := fun row _ => Stitch.isKeyed_congr (by
    rw [Stitch.keyAt, hp.get?_decorate hcol, Stitch.keyAt])
  rw [List.filter_map, List.filter_congr hkeyed]
  refine List.map_congr_left fun row hrow => ?_
  rw [Stitch.decorate, Stitch.decorate, hsame row hrow]

/-- A request for keys admits those of the rows that the request admits whose key is among them. -/
theorem admitted_forKeys
    (hcells : ∀ row ∈ l.rowsOf m.tableName, m.admits q row = true → (row.cell column).isKeyCell = true)
    (hkeys : ∀ v ∈ keys, v.isKeyCell = true) :
    l.admitted m (q.forKeys column keys) = (l.admitted m q).filter (Stitch.isKeyed column keys) := by
  rw [admitted, admitted, List.filter_filter]
  refine List.filter_congr fun row hrow => ?_
  rw [Model.admits_forKeys hkeys (hcells row hrow), Bool.and_comm]

theorem narrows_forKeys (hlimit : q.limit = none) (hoffset : q.offset = none)
    (hcells : ∀ row ∈ l.rowsOf m.tableName, m.admits q row = true → (row.cell column).isKeyCell = true)
    (hkeys : ∀ v ∈ keys, v.isKeyCell = true) (hkeys' : ∀ v ∈ keys', v.isKeyCell = true)
    (hsub : Stitch.KeysAmong keys' keys) :
    l.Narrows m (q.forKeys column keys) (q.forKeys column keys') (Stitch.isKeyed column keys') where
  select := rfl
  orders := rfl
  withs := rfl
  limit := hlimit
  offset := hoffset
  admits row hrow := by
    rw [Model.admits_forKeys hkeys (hcells row hrow), Model.admits_forKeys hkeys' (hcells row hrow)]
    cases hk : Stitch.isKeyed column keys' row with
    | false => simp
    | true => simp [Stitch.isKeyed_mono hsub hk]
  asks t _ hcan :=
    ⟨hcan.select, hcan.orders,
      fun c hc => hcan.wheres c (Model.mem_columnsOfAll_narrowed.2 (Model.mem_columnsOfAll_narrowed.1 hc)),
      hcan.selected, hcan.ordered,
      fun c hc => hcan.filtered c (Model.mem_columnsOfAll_narrowed.2 (Model.mem_columnsOfAll_narrowed.1 hc)),
      hcan.marked⟩

end Narrowing

/-- When there are no keys there is nothing to read, so only lists of keys that are not empty matter. -/
theorem divides_of_read {read : Reader} {m : Model} {q : Descriptor} {column : String} {bound : List Value}
    (h : ∀ keys keys' rows, (∀ v ∈ keys, v.isKeyCell = true) → (∀ v ∈ keys', v.isKeyCell = true) →
      Stitch.KeysAmong keys bound → Stitch.KeysAmong keys' keys → read m (q.forKeys column keys) = .ok rows →
        read m (q.forKeys column keys') = .ok (rows.filter (Stitch.isKeyed column keys'))) :
    Divides read m q column bound := by
  intro keys keys' rows hkeys hkeys' hwithin hsub hr
  by_cases hk' : keys' = []
  · subst hk'
    rw [List.filter_eq_nil_iff.2 fun row _ => by simp [Stitch.isKeyed_nil]]
    rfl
  have hk : keys ≠ [] := fun hnil => hk' (hnil ▸ hsub).eq_nil
  rw [related, if_neg (by simpa using hk)] at hr
  rw [related, if_neg (by simpa using hk')]
  exact h keys keys' rows hkeys hkeys' hwithin hsub hr

/-- Requests without windows are answered such that fewer keys give the rows of those keys. The induction is
on the depth; each level is narrowed with the levels below it divided. -/
theorem divides_resolve {depth : Nat} {chain : List Link} {m : Model} {q : Descriptor} {column : String}
    {bound : List Value} (hsep : l.Separable m (q.forKeys column bound)) (hcol : m.hasColumn column = true)
    (hcells : ∀ row ∈ l.rowsOf m.tableName, m.admits q row = true → (row.cell column).isKeyCell = true)
    (hbound : ∀ v ∈ bound, v.isKeyCell = true) :
    Divides (l.resolve depth chain) m q column bound := by
  induction depth generalizing chain m q column bound with
  | zero => exact divides_of_read fun _ _ _ _ _ _ _ h => absurd h resolve_zero_ne_ok
  | succ depth ih =>
    refine divides_of_read fun keys keys' rows hkeys hkeys' hwithin hsub h => ?_
    have hfewer : ∀ row ∈ l.admitted m (q.forKeys column keys), row ∈ l.admitted m (q.forKeys column bound) := by
      intro row hrow
      rw [admitted_forKeys hcells hkeys, List.mem_filter] at hrow
      rw [admitted_forKeys hcells hbound, List.mem_filter]
      exact ⟨hrow.1, Stitch.isKeyed_mono hwithin hrow.2⟩
    have hlevel : l.Level m (q.forKeys column keys) := hsep.level.of_admitted rfl rfl rfl rfl hfewer
    have hnarrow : l.Narrows m (q.forKeys column keys) (q.forKeys column keys') (Stitch.isKeyed column keys') :=
      narrows_forKeys hlevel.limit hlevel.offset hcells hkeys hkeys' hsub
    refine hnarrow.resolve hlevel hcol (mem_select_forKeys keys (Or.inr (Or.inr rfl))) ?_ h
    intro load hload r other sub hl hforeign
    have hstored := hsep.level.keys load hload r other sub hl
    refine (ih (hsep.below hload hl) hforeign hstored.foreigns fun v hv => ?_).mono
      (keysAmong_keysFor fun row hrow => ⟨row, hfewer row hrow, rfl⟩)
    exact hstored.isKeyCell_of_mem_keysFor hv

end Library

end DataModel

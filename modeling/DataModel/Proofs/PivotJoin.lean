import DataModel.Proofs.Narrowing
import DataModel.Proofs.Sample
import Mathlib.Data.List.ProdSigma

/-!
# Many-to-many relations join through a pivot

What a parent gets from a many-to-many relation is computed from two fetches, a list of keys between them and
a nested loop over what they gave. It is a join (`Stitch.joined`): one entry for every pair of a pivot row and
a related row whose keys are the parent's key and each other's, in the order of the pivot table. No pair is
lost and none comes twice, whatever the other parents are.
-/

namespace DataModel

namespace Value

/-- Whether two cells are the same integer. A null cell is the same as nothing. -/
def sameInt : Value → Value → Bool
  | int a, int b => a = b
  | _, _ => false

theorem sameInt_iff {v w : Value} (hv : v.isKeyCell = true) (hw : w.isKeyCell = true) :
    v.sameInt w = true ↔ ∃ k, v.key = some k ∧ w.key = some k := by
  obtain rfl | ⟨a, rfl⟩ := isKeyCell_cases hv
  · simp [sameInt, key]
  obtain rfl | ⟨b, rfl⟩ := isKeyCell_cases hw
  · simp [sameInt, key]
  rw [sameInt, decide_eq_true_iff]
  constructor
  · rintro rfl
    exact ⟨_, rfl, rfl⟩
  · rintro ⟨k, ha, hb⟩
    exact Numeral.int64Text_injective ((Option.some.inj ha).trans (Option.some.inj hb).symm)

end Value

namespace Stitch

/-- The rows with the key of a cell are those with the same integer. -/
theorem withKey_eq_sameInt {column : String} {v : Value} {rows : List Record} (hv : v.isKeyCell = true)
    (hrows : ∀ row ∈ rows, (row.cell column).isKeyCell = true) :
    withKey column v.key rows = rows.filter fun row => v.sameInt (row.cell column) := by
  have hsame : ∀ row ∈ rows, v.sameInt (row.cell column) = true ↔ ∃ k, v.key = some k ∧ keyAt column row = some k := by
    intro row hrow
    rw [Value.sameInt_iff hv (hrows row hrow), keyAt_eq]
  cases hk : v.key with
  | none =>
    refine (List.filter_eq_nil_iff.2 fun row hrow h => ?_).symm
    obtain ⟨k, hvk, -⟩ := (hsame row hrow).1 h
    rw [hk] at hvk
    cases hvk
  | some k =>
    refine List.filter_congr fun row hrow => ?_
    rw [Bool.eq_iff_iff, decide_eq_true_iff, hsame row hrow, hk]
    constructor
    · intro h
      exact ⟨k, rfl, h⟩
    · rintro ⟨j, hj, h⟩
      rw [Option.some.inj hj]
      exact h

theorem isKeyed_eq_sameInt {column : String} {keys : List Value} {row : Record}
    (hrow : (row.cell column).isKeyCell = true) (hkeys : ∀ v ∈ keys, v.isKeyCell = true) :
    isKeyed column keys row = keys.any fun v => v.sameInt (row.cell column) := by
  rw [Bool.eq_iff_iff, isKeyed_iff, List.any_eq_true]
  constructor
  · rintro ⟨k, hk, v, hv, hvk⟩
    rw [keyAt_eq] at hk
    exact ⟨v, hv, (Value.sameInt_iff (hkeys v hv) hrow).2 ⟨k, hvk, hk⟩⟩
  · rintro ⟨v, hv, hsame⟩
    obtain ⟨k, hvk, hk⟩ := (Value.sameInt_iff (hkeys v hv) hrow).1 hsame
    exact ⟨k, by rw [keyAt_eq, hk], v, hv, hvk⟩

/-- A row is matched by the keys of other rows when one of them has the same integer. -/
theorem isKeyed_keysIn_iff {localKey column : String} {rows : List Record} {link : Record}
    (hrows : ∀ row ∈ rows, (row.cell localKey).isKeyCell = true) (hlink : (link.cell column).isKeyCell = true) :
    isKeyed column (keysIn localKey rows) link = true ↔
      ∃ row ∈ rows, (row.cell localKey).sameInt (link.cell column) = true := by
  rw [isKeyed_iff]
  constructor
  · rintro ⟨k, hk, hmem⟩
    obtain ⟨row, hrow, hrk⟩ := exists_mem_keysIn.1 hmem
    rw [keyAt_eq] at hk hrk
    exact ⟨row, hrow, (Value.sameInt_iff (hrows row hrow) hlink).2 ⟨k, hrk, hk⟩⟩
  · rintro ⟨row, hrow, hsame⟩
    obtain ⟨k, hrk, hk⟩ := (Value.sameInt_iff (hrows row hrow) hlink).1 hsame
    exact ⟨k, by rw [keyAt_eq, hk], exists_mem_keysIn.2 ⟨row, hrow, by rw [keyAt_eq, hrk]⟩⟩

/-- Among integers and null the keys of a column are the integers in it. -/
theorem mem_keysIn_iff {column : String} {rows : List Record} {v : Value}
    (hrows : ∀ row ∈ rows, (row.cell column).isKeyCell = true) :
    v ∈ keysIn column rows ↔ ∃ n, v = .int n ∧ ∃ row ∈ rows, row.cell column = .int n := by
  constructor
  · intro hv
    obtain ⟨hk, row, hrow, hget⟩ := mem_keysIn hv
    have hcell : row.cell column = v := by rw [Record.cell, hget]; rfl
    have hint := hrows row hrow
    rw [hcell] at hint
    obtain rfl | ⟨n, rfl⟩ := Value.isKeyCell_cases hint
    · simp [Value.key] at hk
    · exact ⟨n, rfl, row, hrow, hcell⟩
  · rintro ⟨n, rfl, row, hrow, hcell⟩
    have hkey : keyAt column row = (Value.int n).key := by rw [keyAt_eq, hcell]
    obtain ⟨w, hw, hwk⟩ := exists_mem_keysIn.2 ⟨row, hrow, hkey⟩
    have hwn : w = .int n := Value.eq_of_key (isKeyCell_of_mem_keysIn hrows hw) rfl hwk rfl
    rwa [hwn] at hw

/-- The pairs of a pivot row and a related row that belong to a parent: the pivot row has the parent's key,
and the related row has the other key of the pivot row. -/
def joined (r : Relation) (pivot : Pivot) (links children : List Record) (row : Record) : List (Record × Record) :=
  (links ×ˢ children).filter fun p =>
    (row.cell r.localKey).sameInt (p.1.cell pivot.localKey) &&
      (p.1.cell pivot.foreignKey).sameInt (p.2.cell r.foreignKey)

/-- Nothing belongs to a parent without a key. -/
theorem joined_of_null {r : Relation} {pivot : Pivot} {links children : List Record} {row : Record}
    (h : row.cell r.localKey = .null) : joined r pivot links children row = [] := by
  rw [joined, h]
  exact List.filter_eq_nil_iff.2 fun p _ => by simp [Value.sameInt]

/-- What the columns of an entry are. Without a list of columns of the pivot it is the related row, with the
columns of the pivot row other than the keys where the related row has none; with a list it is the related
row with the columns of the list, null where the pivot row has none. -/
def Carries (pivot : Pivot) (link child entry : Record) : Prop :=
  ∀ c, entry.get? c =
    if pivot.columns = [] then
      (child.get? c).or (if c = pivot.localKey ∨ c = pivot.foreignKey then none else link.get? c)
    else if c ∈ pivot.columns then some (link.cell c) else child.get? c

/-- A nested loop over two filtered lists goes through their product, filtered by both conditions. -/
theorem flatMap_filter_eq_product {α β γ : Type} (p : α → Bool) (s : α → β → Bool) (f : α → β → γ) (as : List α)
    (bs : List β) : ((as.filter p).flatMap fun a => (bs.filter (s a)).map (f a)) =
      ((as ×ˢ bs).filter fun x => p x.1 && s x.1 x.2).map fun x => f x.1 x.2 := by
  induction as with
  | nil => rfl
  | cons a as ih =>
    have hhead : ((bs.map fun b => (a, b)).filter fun x => p x.1 && s x.1 x.2).map (fun x => f x.1 x.2) =
        if p a then (bs.filter (s a)).map (f a) else [] := by
      rw [List.filter_map, List.map_map]
      cases hp : p a <;> simp [Function.comp_def, hp]
    rw [List.product_cons, List.filter_append, List.map_append, hhead, ← ih, List.filter_cons]
    cases p a <;> simp

/-- The nested loop over the links of a parent's key gives the join, with an entry for every pair. -/
theorem linked_eq_joined {r : Relation} {pivot : Pivot} {links children : List Record} {row : Record}
    {keys : List Value} (hrow : (row.cell r.localKey).isKeyCell = true)
    (hlinks : ∀ link ∈ links, (link.cell pivot.localKey).isKeyCell = true)
    (hforeign : ∀ link ∈ links, (row.cell r.localKey).sameInt (link.cell pivot.localKey) = true →
      (link.cell pivot.foreignKey).isKeyCell = true)
    (hchildren : ∀ child ∈ children, (child.cell r.foreignKey).isKeyCell = true)
    (hkey : ∀ k, keyAt r.localKey row = some k → ∃ v ∈ keys, v.key = some k) :
    ((withKey pivot.localKey (keyAt r.localKey row) (links.filter (isKeyed pivot.localKey keys))).flatMap
      fun link => (withKey r.foreignKey (keyAt pivot.foreignKey link) children).map fun child =>
        Value.map (inlined pivot link child)) =
      (joined r pivot links children row).map fun p => Value.map (inlined pivot p.1 p.2) := by
  rw [withKey_filter_isKeyed hkey, keyAt_eq, withKey_eq_sameInt hrow hlinks]
  have hinner : ∀ link ∈ links.filter fun link => (row.cell r.localKey).sameInt (link.cell pivot.localKey),
      ((withKey r.foreignKey (keyAt pivot.foreignKey link) children).map fun child =>
        Value.map (inlined pivot link child)) =
      (children.filter fun child => (link.cell pivot.foreignKey).sameInt (child.cell r.foreignKey)).map
        fun child => Value.map (inlined pivot link child) := by
    intro link hlink
    obtain ⟨hmem, hsame⟩ := List.mem_filter.1 hlink
    rw [keyAt_eq, withKey_eq_sameInt (hforeign link hmem hsame) hchildren]
  rw [List.flatMap_congr hinner]
  exact flatMap_filter_eq_product _ _ _ links children

theorem get?_inlined_all {pivot : Pivot} (hc : pivot.columns = []) (link child : Record) (c : String) :
    (inlined pivot link child).get? c =
      (child.get? c).or (if c = pivot.localKey ∨ c = pivot.foreignKey then none else link.get? c) := by
  rw [inlined, if_pos (by rw [hc]; rfl)]
  induction link generalizing child with
  | nil => simp
  | cons e link ih =>
    obtain ⟨k, v⟩ := e
    rw [List.foldl_cons, ih, Assoc.get?_cons]
    by_cases hskip : k = pivot.localKey ∨ k = pivot.foreignKey ∨ child.has k = true
    · rw [if_pos hskip]
      by_cases hk : k = c
      · subst hk
        rcases hskip with hskip | hskip | hskip
        · simp [hskip]
        · simp [hskip]
        · obtain ⟨w, hw⟩ := Option.isSome_iff_exists.1 hskip
          rw [hw, Option.some_or, Option.some_or]
      · rw [if_neg hk]
    · rw [if_neg hskip, Assoc.get?_insert]
      rw [not_or, not_or] at hskip
      by_cases hk : k = c
      · subst hk
        have hnone : child.get? k = none := by simpa [Assoc.has] using hskip.2.2
        simp [hskip.1, hskip.2.1, hnone]
      · rw [if_neg hk, if_neg hk]

/-- The entry for a pair carries what it should. -/
theorem carries_inlined (pivot : Pivot) (link child : Record) :
    Carries pivot link child (inlined pivot link child) := by
  intro c
  by_cases hc : pivot.columns = []
  · rw [if_pos hc, get?_inlined_all hc]
  · rw [if_neg hc, inlined, if_neg (by simpa using hc)]
    have hfold := Assoc.get?_extend_map child link.cell pivot.columns c
    rwa [Assoc.extend, List.foldl_map] at hfold

end Stitch

namespace Library

variable {l : Library} {chain : List Link} {m other : Model} {q sub : Descriptor} {r : Relation}

/-- Whether rows hold the join through a pivot under a name, for the keys that the pivot rows of all parents
lead to and the related rows that were fetched for them. -/
structure PivotJoined (l : Library) (chain : List Link) (rows : List Record) (name : String) (r : Relation)
    (other : Model) (sub : Descriptor) (pivot : Pivot) (keys : List Value) (children : List Record) : Prop where
  keys_iff : ∀ v, v ∈ keys ↔ ∃ n, v = .int n ∧ ∃ row ∈ rows, ∃ link ∈ l.rowsOf pivot.table,
    (row.cell r.localKey).sameInt (link.cell pivot.localKey) = true ∧ link.cell pivot.foreignKey = .int n
  fetched : keys = [] ∧ children = [] ∨ l.Answers chain other (sub.forKeys r.foreignKey keys) children
  complete : ∃ sources, sources.Perm ((l.admitted other sub).filter fun source =>
      keys.any fun v => v.sameInt (source.cell r.foreignKey)) ∧
    List.Forall₂ (fun source child => ∀ c, other.hasColumn c = true →
      (sub.select = [] ∨ c ∈ sub.select ∨ c = r.foreignKey) → child.cell c = source.cell c) sources children
  attached : ∀ row ∈ rows, ∃ entries, row.get? name = some (.list (entries.map .map)) ∧
    List.Forall₂ (fun p entry => Stitch.Carries pivot p.1 p.2 entry)
      (Stitch.joined r pivot (l.rowsOf pivot.table) children row) entries
  unkeyed : ∀ row ∈ rows, row.cell r.localKey = .null → row.get? name = some (.list [])
  whole : l.Separable other sub → ∀ all,
    l.Answers chain other (sub.selecting (sub.forKeys r.foreignKey keys).select) all → ∀ row ∈ rows,
      Stitch.joined r pivot (l.rowsOf pivot.table) all row =
        Stitch.joined r pivot (l.rowsOf pivot.table) children row

/-- A related row has the cells of a stored one that the query admits and whose key is asked for, and no
such stored row is missing. -/
theorem sources_of_fetched {keys : List Value} {children : List Record}
    (hcells : ∀ row ∈ l.rowsOf other.tableName, other.admits sub row = true →
      (row.cell r.foreignKey).isKeyCell = true)
    (hkeys : ∀ v ∈ keys, v.isKeyCell = true) (hlimit : sub.limit = none) (hoffset : sub.offset = none)
    (h : keys = [] ∧ children = [] ∨ l.Answers chain other (sub.forKeys r.foreignKey keys) children) :
    ∃ sources, sources.Perm ((l.admitted other sub).filter fun source =>
        keys.any fun v => v.sameInt (source.cell r.foreignKey)) ∧
      List.Forall₂ (fun source child => ∀ c, other.hasColumn c = true →
        (sub.select = [] ∨ c ∈ sub.select ∨ c = r.foreignKey) → child.cell c = source.cell c)
        sources children := by
  rcases h with ⟨rfl, rfl⟩ | h
  · refine ⟨[], ?_, .nil⟩
    rw [List.filter_eq_nil_iff.2 fun source _ => by simp]
  refine ⟨l.found other (sub.forKeys r.foreignKey keys), ?_, ?_⟩
  · have hl : (sub.forKeys r.foreignKey keys).limit = none := hlimit
    have ho : (sub.forKeys r.foreignKey keys).offset = none := hoffset
    rw [found, hl, ho]
    refine (Record.perm_sortedBy _ _).trans (List.Perm.of_eq ?_)
    rw [admitted, List.filter_filter]
    refine List.filter_congr fun source hsource => ?_
    rw [Model.admits_forKeys hkeys (hcells source hsource), Bool.and_comm]
    cases ha : other.admits sub source with
    | false => simp
    | true => rw [Stitch.isKeyed_eq_sameInt (hcells source hsource ha) hkeys]
  · refine h.cells.imp fun source child hcell c hc hcolumn => hcell c hc ?_
    exact mem_columnsFor other (mem_select_forKeys keys hcolumn)

/-- The keys of the rows of an answer are integers or null when those of the stored rows are that the request
admits. -/
theorem Answers.isKeyCell {column : String} {rows : List Record} (h : l.Answers chain m q rows)
    (hcol : m.hasColumn column = true) (hcolumn : q.select = [] ∨ column ∈ q.select)
    (hcells : ∀ row ∈ l.rowsOf m.tableName, m.admits q row = true → (row.cell column).isKeyCell = true) :
    ∀ row ∈ rows, (row.cell column).isKeyCell = true := by
  intro row hrow
  obtain ⟨source, hsource, hcell⟩ := exists_of_mem_forall₂ h.cells hrow
  obtain ⟨hstored, hadmits⟩ := mem_found hsource
  rw [hcell _ hcol (mem_columnsFor m hcolumn)]
  exact hcells source hstored hadmits

/-- The keys of the related rows that were fetched are integers or null. -/
theorem foreigns_of_fetched {keys : List Value} {children : List Record}
    (hforeign : other.hasColumn r.foreignKey = true)
    (hcells : ∀ row ∈ l.rowsOf other.tableName, other.admits sub row = true →
      (row.cell r.foreignKey).isKeyCell = true)
    (hkeys : ∀ v ∈ keys, v.isKeyCell = true)
    (h : keys = [] ∧ children = [] ∨ l.Answers chain other (sub.forKeys r.foreignKey keys) children) :
    ∀ child ∈ children, (child.cell r.foreignKey).isKeyCell = true := by
  rcases h with ⟨-, rfl⟩ | h
  · simp
  refine h.isKeyCell hforeign (mem_select_forKeys keys (Or.inr (Or.inr rfl))) ?_
  intro row hrow hadmits
  rw [Model.admits_forKeys hkeys (hcells row hrow), Bool.and_eq_true] at hadmits
  exact hcells row hrow hadmits.1

namespace KeyCells

variable {rows : List Record} {pivot : Pivot}

/-- A pivot row is read exactly when it belongs to some parent. -/
theorem isKeyed_link_iff (h : l.KeyCells rows r other sub) (hkind : r.kind = .manyToMany)
    (hpivot : r.pivot = some pivot) {link : Record} (hlink : link ∈ l.rowsOf pivot.table) :
    Stitch.isKeyed pivot.localKey (Stitch.keysIn r.localKey rows) link = true ↔
      ∃ row ∈ rows, (row.cell r.localKey).sameInt (link.cell pivot.localKey) = true :=
  Stitch.isKeyed_keysIn_iff h.locals (h.pivotLocals pivot hkind hpivot link hlink)

/-- The other key of a pivot row that belongs to a parent is an integer or null. -/
theorem isKeyCell_foreign (h : l.KeyCells rows r other sub) (hkind : r.kind = .manyToMany)
    (hpivot : r.pivot = some pivot) {row : Record} (hrow : row ∈ rows) :
    ∀ link ∈ l.rowsOf pivot.table, (row.cell r.localKey).sameInt (link.cell pivot.localKey) = true →
      (link.cell pivot.foreignKey).isKeyCell = true := by
  intro link hlink hsame
  refine h.pivotForeigns pivot hkind hpivot link hlink ?_
  exact (h.isKeyed_link_iff hkind hpivot hlink).2 ⟨row, hrow, hsame⟩

/-- The keys that are fetched are those of the pivot rows that belong to some parent. -/
theorem mem_keysFor_iff (h : l.KeyCells rows r other sub) (hkind : r.kind = .manyToMany)
    (hpivot : r.pivot = some pivot) (v : Value) :
    v ∈ l.keysFor r rows ↔ ∃ n, v = .int n ∧ ∃ row ∈ rows, ∃ link ∈ l.rowsOf pivot.table,
      (row.cell r.localKey).sameInt (link.cell pivot.localKey) = true ∧ link.cell pivot.foreignKey = .int n := by
  have hread : ∀ link, link ∈ (l.rowsOf pivot.table).filter
      (Stitch.isKeyed pivot.localKey (Stitch.keysIn r.localKey rows)) ↔ link ∈ l.rowsOf pivot.table ∧
        ∃ row ∈ rows, (row.cell r.localKey).sameInt (link.cell pivot.localKey) = true := by
    intro link
    rw [List.mem_filter]
    exact and_congr_right fun hlink => h.isKeyed_link_iff hkind hpivot hlink
  have hint : ∀ link ∈ (l.rowsOf pivot.table).filter
      (Stitch.isKeyed pivot.localKey (Stitch.keysIn r.localKey rows)),
        (link.cell pivot.foreignKey).isKeyCell = true := by
    intro link hlink
    obtain ⟨hstored, row, hrow, hsame⟩ := (hread link).1 hlink
    exact h.isKeyCell_foreign hkind hpivot hrow link hstored hsame
  rw [keysFor_manyToMany hkind hpivot, Stitch.mem_keysIn_iff hint]
  refine exists_congr fun n => and_congr_right fun _ => ?_
  constructor
  · rintro ⟨link, hlink, hcell⟩
    obtain ⟨hstored, row, hrow, hsame⟩ := (hread link).1 hlink
    exact ⟨row, hrow, link, hstored, hsame, hcell⟩
  · rintro ⟨row, hrow, link, hstored, hsame, hcell⟩
    exact ⟨link, (hread link).2 ⟨hstored, row, hrow, hsame⟩, hcell⟩

/-- A pivot row of a parent leads to a key that is fetched. -/
theorem exists_mem_keysFor (h : l.KeyCells rows r other sub) (hkind : r.kind = .manyToMany)
    (hpivot : r.pivot = some pivot) {row : Record} (hrow : row ∈ rows) :
    ∀ link ∈ l.rowsOf pivot.table, (row.cell r.localKey).sameInt (link.cell pivot.localKey) = true →
      ∀ k, (link.cell pivot.foreignKey).key = some k → ∃ v ∈ l.keysFor r rows, v.key = some k := by
  intro link hlink hsame k hk
  obtain hn | ⟨n, hn⟩ := Value.isKeyCell_cases (h.isKeyCell_foreign hkind hpivot hrow link hlink hsame)
  · simp [hn, Value.key] at hk
  · rw [hn] at hk
    exact ⟨.int n, (h.mem_keysFor_iff hkind hpivot _).2 ⟨n, rfl, row, hrow, link, hlink, hsame, hn⟩, hk⟩

end KeyCells

theorem product_filter {α β : Type} (p : β → Bool) (as : List α) (bs : List β) :
    as ×ˢ bs.filter p = (as ×ˢ bs).filter fun x => p x.2 := by
  induction as with
  | nil => rfl
  | cons a as ih =>
    rw [List.product_cons, List.product_cons, List.filter_append, ih, List.filter_map]
    rfl

/-- Related rows that no parent leads to make no difference to what belongs to a parent. -/
theorem joined_filter {pivot : Pivot} {keys : List Value} {links children : List Record} {row : Record}
    (hforeigns : ∀ link ∈ links, (row.cell r.localKey).sameInt (link.cell pivot.localKey) = true →
      (link.cell pivot.foreignKey).isKeyCell = true)
    (hchildren : ∀ child ∈ children, (child.cell r.foreignKey).isKeyCell = true)
    (hkeys : ∀ link ∈ links, (row.cell r.localKey).sameInt (link.cell pivot.localKey) = true →
      ∀ k, (link.cell pivot.foreignKey).key = some k → ∃ v ∈ keys, v.key = some k) :
    Stitch.joined r pivot links (children.filter (Stitch.isKeyed r.foreignKey keys)) row =
      Stitch.joined r pivot links children row := by
  rw [Stitch.joined, product_filter, List.filter_filter, Stitch.joined]
  refine List.filter_congr fun p hp => ?_
  obtain ⟨hlink, hchild⟩ := List.mem_product.1 hp
  cases hl : (row.cell r.localKey).sameInt (p.1.cell pivot.localKey) with
  | false => rw [Bool.false_and, Bool.false_and]
  | true =>
    cases hs : (p.1.cell pivot.foreignKey).sameInt (p.2.cell r.foreignKey) with
    | false => simp
    | true =>
      obtain ⟨k, hlk, hck⟩ := (Value.sameInt_iff (hforeigns p.1 hlink hl) (hchildren p.2 hchild)).1 hs
      have hkeyed : Stitch.isKeyed r.foreignKey keys p.2 = true :=
        Stitch.isKeyed_iff.2 ⟨k, by rw [Stitch.keyAt_eq, hck], hkeys p.1 hlink hl k hlk⟩
      rw [hkeyed]
      rfl

/-- The related rows that were fetched are those of the whole query whose key was asked for. -/
theorem fetched_eq_filter {keys : List Value} {children all : List Record} (hsep : l.Separable other sub)
    (hforeign : other.hasColumn r.foreignKey = true)
    (hcells : ∀ row ∈ l.rowsOf other.tableName, other.admits sub row = true →
      (row.cell r.foreignKey).isKeyCell = true)
    (hkeys : ∀ v ∈ keys, v.isKeyCell = true)
    (h : keys = [] ∧ children = [] ∨ l.Answers chain other (sub.forKeys r.foreignKey keys) children)
    (hall : l.Answers chain other (sub.selecting (sub.forKeys r.foreignKey keys).select) all) :
    children = all.filter (Stitch.isKeyed r.foreignKey keys) := by
  rcases h with ⟨rfl, rfl⟩ | h
  · exact (List.filter_eq_nil_iff.2 fun row _ => by simp [Stitch.isKeyed_nil]).symm
  have hlevel := hsep.level
  have hnarrow : l.Narrows other (sub.selecting (sub.forKeys r.foreignKey keys).select)
      (sub.forKeys r.foreignKey keys) (Stitch.isKeyed r.foreignKey keys) := by
    refine ⟨rfl, rfl, rfl, hlevel.limit, hlevel.offset, fun row hrow => Model.admits_forKeys hkeys (hcells row hrow), ?_⟩
    intro t ht _
    obtain ⟨_ | depth, hd⟩ := h
    · exact absurd hd resolve_zero_ne_ok
    obtain ⟨_, _, hb, -⟩ := resolve_succ_eq_ok_iff.1 hd
    obtain ⟨t', ht', hcan, -⟩ := read_eq_ok_iff.1 hb
    rwa [Option.some.inj (ht'.symm.trans ht)] at hcan
  obtain ⟨_ | depth, hd⟩ := hall
  · exact absurd hd resolve_zero_ne_ok
  have hwhole : l.Level other (sub.selecting (sub.forKeys r.foreignKey keys).select) :=
    hlevel.of_admitted rfl rfl rfl rfl fun _ hrow => hrow
  refine h.unique ⟨depth + 1, hnarrow.resolve hwhole hforeign
    (mem_select_forKeys keys (Or.inr (Or.inr rfl))) ?_ hd⟩
  intro load hload r' other' sub' hl hforeign'
  have hstored := hlevel.keys load hload r' other' sub' hl
  exact divides_resolve (hsep.below hload hl) hforeign' hstored.foreigns fun v hv =>
    hstored.isKeyCell_of_mem_keysFor hv

/-- A many-to-many relation attaches the join of its pivot table with the related rows. -/
theorem attached_pivot_join {rows : List Record} {load : String × With Descriptor}
    (h : l.Answers chain m q rows) (hnames : Assoc.Distinct q.withs) (hload : load ∈ q.withs)
    (hl : l.Loads m load r other sub) (hkind : r.kind = .manyToMany) (hlimit : sub.limit = none)
    (hoffset : sub.offset = none) (hcells : l.KeyCells rows r other sub) :
    ∃ pivot keys children, r.pivot = some pivot ∧
      l.PivotJoined (chain ++ [⟨m.name, Descriptor.relationName load⟩]) rows load.1 r other sub pivot keys
        children := by
  obtain ⟨depth, value, hforeign, ho, hrows⟩ := h.exists_offer hnames hload hl
  simp only [offer, hkind, bind_eq_ok_iff, ok_eq_ok_iff] at ho
  obtain ⟨pivot, hp, links, hlk, children, hc, rfl⟩ := ho
  have hpivot := pivot_of_pivotOf hp
  have hlinks := hcells.pivotLocals pivot hkind hpivot
  rw [links_eq_filter hlinks (fun v hv => Stitch.isKeyCell_of_mem_keysIn hcells.locals hv) hlk] at hc hrows
  rw [← keysFor_manyToMany hkind hpivot] at hc
  have hkeys : ∀ v ∈ l.keysFor r rows, v.isKeyCell = true := fun v hv => hcells.isKeyCell_of_mem_keysFor hv
  have hfetched := (related_cases hc).imp_right fun hread => (⟨depth, hread⟩ : l.Answers _ _ _ _)
  have hchildren := foreigns_of_fetched hforeign hcells.foreigns hkeys hfetched
  have hattached : ∀ row ∈ rows, row.get? load.1 = some (.list
      ((Stitch.joined r pivot (l.rowsOf pivot.table) children row).map fun p =>
        .map (Stitch.inlined pivot p.1 p.2))) := by
    intro row hrow
    obtain ⟨source, -, hget⟩ := exists_of_mem_forall₂ hrows hrow
    rw [hget, Option.some_or, Stitch.linked_eq_joined (hcells.locals row hrow) hlinks
      (hcells.isKeyCell_foreign hkind hpivot hrow) hchildren]
    exact fun k hk => Stitch.exists_mem_keysIn.2 ⟨row, hrow, hk⟩
  refine ⟨pivot, l.keysFor r rows, children, hpivot, hcells.mem_keysFor_iff hkind hpivot, hfetched,
    sources_of_fetched hcells.foreigns hkeys hlimit hoffset hfetched, ?_, ?_, ?_⟩
  · intro row hrow
    refine ⟨(Stitch.joined r pivot (l.rowsOf pivot.table) children row).map fun p =>
      Stitch.inlined pivot p.1 p.2, ?_, ?_⟩
    · rw [hattached row hrow, List.map_map]
      rfl
    · rw [List.forall₂_map_right_iff, List.forall₂_same]
      exact fun p _ => Stitch.carries_inlined pivot p.1 p.2
  · intro row hrow hnull
    rw [hattached row hrow, Stitch.joined_of_null hnull]
    rfl
  · intro hsep all hall row hrow
    have hall' := hall.isKeyCell hforeign (mem_select_forKeys (l.keysFor r rows) (Or.inr (Or.inr rfl)))
      hcells.foreigns
    -- what was fetched is the whole answer for the keys that the links of this row lead to, among others
    rw [fetched_eq_filter hsep hforeign hcells.foreigns hkeys hfetched hall]
    exact (joined_filter (hcells.isKeyCell_foreign hkind hpivot hrow) hall'
      (hcells.exists_mem_keysFor hkind hpivot hrow)).symm

end Library

namespace Sample

/-- The tags of every book are joined through the links. -/
theorem books_join_tags : ∃ pivot keys children, tagged.pivot = some pivot ∧
    library.PivotJoined [⟨"book", "tags"⟩] taggedBooks "tags" tagged tag .empty pivot keys children := by
  have hcells : library.KeyCells taggedBooks tagged tag .empty := keyCells_tagged (by decide) .empty
  exact Library.attached_pivot_join (Library.answers_of_run run_tagRequest) distinct_tagRequest
    List.mem_cons_self ⟨rfl, rfl, rfl⟩ rfl rfl rfl hcells

end Sample

end DataModel

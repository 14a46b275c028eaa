import DataModel.Proofs.Resolution
import DataModel.Proofs.Sample
import Mathlib.Algebra.Group.Nat.Defs

/-!
# Pages tile the result

A page is the part (`Page.slice`) of the whole result that its number and its size say, also where the window
of the page is not read because it starts behind the last row. Following the indicators from the first page
visits every page once and ends, and the pages put together are the whole result.
-/

namespace DataModel

theorem twoTo_eq (n : Nat) : twoTo n = 2 ^ n :=
  rfl

/-! ## Arithmetic of words -/

/-- A number is below the rounded quotient exactly when its product is below the total. -/
theorem lt_ceilingDiv_iff {total size : UInt64} (hs : 0 < size.toNat) (n : Nat) :
    n < (ceilingDiv total size).toNat ↔ n * size.toNat < total.toNat := by
  have hword := total.toNat_lt
  have hbelow := Nat.le_div_iff_mul_le (x := n + 1) (y := total.toNat) hs
  have hat := Nat.le_div_iff_mul_le (x := n) (y := total.toNat) hs
  unfold ceilingDiv
  split
  next hmod =>
    have hzero : total.toNat % size.toNat = 0 := by rw [← UInt64.toNat_mod, hmod]; rfl
    have hsplit := Nat.div_add_mod' total.toNat size.toNat
    rw [UInt64.toNat_div]
    refine ⟨fun h => ?_, fun h => ?_⟩
    · have := hbelow.1 h
      rw [Nat.add_mul] at this
      omega
    · by_contra hn
      have := Nat.mul_le_mul_right size.toNat (Nat.not_lt.1 hn)
      omega
  next hmod =>
    have hpos : total.toNat % size.toNat ≠ 0 := by
      intro hzero
      exact hmod (UInt64.toNat_inj.1 (by rw [UInt64.toNat_mod, hzero]; rfl))
    -- a size that does not divide the total is at least two, so the next quotient is still a word
    have hone : size.toNat ≠ 1 := fun h => hpos (by rw [h, Nat.mod_one])
    have hhalf : total.toNat / size.toNat ≤ total.toNat / 2 := Nat.div_le_div_left (by omega) (by decide)
    have hfit : total.toNat / size.toNat + 1 < 2 ^ 64 := by omega
    rw [UInt64.toNat_add, UInt64.toNat_div, UInt64.toNat_one, Nat.mod_eq_of_lt hfit, Nat.lt_succ_iff, hat]
    refine ⟨fun h => Nat.lt_of_le_of_ne h fun heq => hpos ?_, Nat.le_of_lt⟩
    rw [← heq, Nat.mul_mod_left]

theorem saturatingMul_lt_iff (a b total : UInt64) :
    saturatingMul a b < total ↔ a.toNat * b.toNat < total.toNat := by
  have hword := total.toNat_lt
  rw [UInt64.lt_iff_toNat_lt]
  unfold saturatingMul
  split
  next h =>
    rw [twoTo_eq] at h
    rw [UInt64.toNat_mul, Nat.mod_eq_of_lt h]
  next h =>
    rw [twoTo_eq] at h
    have htop : (0xffffffffffffffff : UInt64).toNat = 2 ^ 64 - 1 := rfl
    omega

/-- A product below a word is itself a word. -/
theorem checkedMul?_eq_some {a b total : UInt64} (h : a.toNat * b.toNat < total.toNat) :
    ∃ c : UInt64, checkedMul? a b = some c ∧ c.toNat = a.toNat * b.toNat := by
  have hfit : a.toNat * b.toNat < 2 ^ 64 := Nat.lt_trans h total.toNat_lt
  refine ⟨a * b, if_pos hfit, ?_⟩
  rw [UInt64.toNat_mul, Nat.mod_eq_of_lt hfit]

theorem toNat_of_checkedMul? {a b c : UInt64} (h : checkedMul? a b = some c) :
    c.toNat = a.toNat * b.toNat := by
  unfold checkedMul? at h
  split at h
  next hfit =>
    rw [twoTo_eq] at hfit
    rw [← Option.some.inj h, UInt64.toNat_mul, Nat.mod_eq_of_lt hfit]
  next => cases h

theorem toNat_max_one (a : UInt64) : (max a 1).toNat = max a.toNat 1 := by
  change (if a ≤ 1 then 1 else a : UInt64).toNat = _
  have hone : (1 : UInt64).toNat = 1 := rfl
  split
  next h =>
    rw [UInt64.le_iff_toNat_le] at h
    omega
  next h =>
    rw [UInt64.le_iff_toNat_le] at h
    omega

/-! ## Parts of a result -/

/-- The same request for all its rows. -/
def Descriptor.unlimited (q : Descriptor) : Descriptor :=
  { q with limit := none, offset := none }

namespace Table

theorem window_map {α β : Type} (f : α → β) (offset limit : Option UInt64) (items : List α) :
    (window offset limit items).map f = window offset limit (items.map f) := by
  unfold window
  cases limit with
  | none => exact List.map_drop
  | some n => simp only [List.map_take, List.map_drop]

end Table

namespace Page

/-- The number of rows of a page when a size is asked for: zero stands for the usual one. -/
def sizeFor (size : UInt64) : UInt64 :=
  if size = 0 then defaultSize else size

theorem sizeFor_pos (size : UInt64) : 0 < (sizeFor size).toNat := by
  unfold sizeFor
  split
  · decide
  next h =>
    exact Nat.pos_of_ne_zero fun hz => h (UInt64.toNat_inj.1 hz)

/-- The rows of a result that stand on the page of a number, for pages of a size. -/
def slice (rows : List Record) (number size : Nat) : List Record :=
  (rows.drop ((number - 1) * size)).take size

/-- The first pages put together are the start of the result. -/
theorem flatMap_slice (rows : List Record) (size count : Nat) :
    (List.range' 1 count).flatMap (fun n => slice rows n size) = rows.take (count * size) := by
  induction count with
  | zero => simp
  | succ count ih =>
    rw [List.range'_concat, List.flatMap_append, ih, Nat.add_mul, Nat.one_mul, List.take_add,
      List.flatMap_singleton, slice, Nat.one_mul, Nat.add_sub_cancel_left]

theorem slice_eq_nil {rows : List Record} {number size : Nat} (h : rows.length ≤ (number - 1) * size) :
    slice rows number size = [] := by
  rw [slice, List.drop_eq_nil_of_le h, List.take_nil]

theorem length_slice {rows : List Record} {number size : Nat} (hn : 0 < number)
    (h : number * size ≤ rows.length) : (slice rows number size).length = size := by
  obtain ⟨k, rfl⟩ : ∃ k, number = k + 1 := ⟨number - 1, by omega⟩
  rw [Nat.succ_mul] at h
  rw [slice, List.length_take, List.length_drop, Nat.add_sub_cancel]
  omega

/-- The page of a number that a result has, for pages of a size. -/
def numbered (rows : List Record) (size : UInt64) (number : Nat) : Page :=
  .of (UInt64.ofNat rows.length) (UInt64.ofNat number) size (slice rows number size.toNat)

/-- All pages of a result report how many there are. -/
theorem lt_pages_iff {rows : List Record} {size : UInt64} (hs : 0 < size.toNat) (hrows : rows.length < 2 ^ 64)
    (number n : Nat) : n < (numbered rows size number).pages.toNat ↔ n * size.toNat < rows.length := by
  have hmax : max size 1 = size := UInt64.toNat_inj.1 (by rw [toNat_max_one]; omega)
  rw [numbered, of, hmax, lt_ceilingDiv_iff hs, UInt64.toNat_ofNat_of_lt' hrows]

theorem next_numbered {rows : List Record} {size : UInt64} {number : Nat} (hrows : rows.length < 2 ^ 64)
    (hnumber : number + 1 < 2 ^ 63) (h : number * size.toNat < rows.length) :
    (numbered rows size number).next = Int64.ofNat (number + 1) := by
  have hvalue : (UInt64.ofNat number).toNat = number := UInt64.toNat_ofNat_of_lt' (by rw [UInt64.size]; omega)
  have hmore := (saturatingMul_lt_iff (UInt64.ofNat number) size (UInt64.ofNat rows.length)).2
    (by rw [hvalue, UInt64.toNat_ofNat_of_lt' hrows]; exact h)
  rw [numbered, of, nextOf, if_pos ⟨hmore, by rw [hvalue]; exact hnumber⟩, hvalue]

theorem next_numbered_last {rows : List Record} {size : UInt64} {number : Nat} (hrows : rows.length < 2 ^ 64)
    (hnumber : number < 2 ^ 64) (h : rows.length ≤ number * size.toNat) : (numbered rows size number).next = -1 := by
  refine if_neg fun hmore => ?_
  have hlt := (saturatingMul_lt_iff (UInt64.ofNat number) size (UInt64.ofNat rows.length)).1 hmore.1
  rw [UInt64.toNat_ofNat_of_lt' hnumber, UInt64.toNat_ofNat_of_lt' hrows] at hlt
  exact Nat.not_lt.2 h hlt

theorem ofNat_ne_neg_one {n : Nat} (h : n < 2 ^ 63) : Int64.ofNat n ≠ -1 := by
  intro he
  have ht := congrArg Int64.toInt he
  rw [Int64.toInt_ofNat_of_lt h] at ht
  have hminus : (-1 : Int64).toInt = -1 := rfl
  omega

end Page

namespace Library

variable {l : Library} {m : Model} {q : Descriptor}

/-- A request without eager-loads is answered by the rows that are read. -/
theorem run_of_no_loads (hw : q.withs = []) : l.run m q = l.read m q := by
  rw [run, depth, resolve_succ, hw]
  exact bind_pure _

/-- The rows that are counted are those that a request admits. -/
theorem count_of_canAsk {t : Table} (ht : l.store.tables.get? m.tableName = some t) (hcan : m.CanAsk t q) :
    l.count m q = .ok ((l.rowsOf m.tableName).filter (m.admits q)).length := by
  obtain ⟨f, hf⟩ : ∃ f, m.filter q = .ok f := ⟨_, Model.filter_eq_ok_iff.2 ⟨hcan.wheres, rfl⟩⟩
  have hcount : l.store.count m.tableName f = .ok (t.matching f).length := by
    refine bind_eq_ok_iff.2 ⟨t, table?_eq_ok_iff.2 ht, check_bind_eq_ok_iff.2 ⟨?_, rfl⟩⟩
    exact Table.checkColumns_eq_ok_iff.2 (hcan.hasColumn_filter hf)
  refine bind_eq_ok_iff.2 ⟨f, hf, ofStore_eq_ok_iff.2 ?_⟩
  rw [hcount, Table.matching, List.filter_congr fun r _ => Model.passes_filter hf r, rowsOf_eq ht]

/-- The rows of a request whatever its window: they are counted, and every window of them can be asked for. -/
theorem exists_rows {result : List Record} (hw : q.withs = []) (h : l.run m q = .ok result) :
    ∃ rows : List Record, rows.length ≤ (l.rowsOf m.tableName).length ∧ l.count m q = .ok rows.length ∧
      ∀ limit offset : Option UInt64, l.run m { q with limit, offset } = .ok (Table.window offset limit rows) := by
  rw [run_of_no_loads hw] at h
  obtain ⟨t, ht, hcan, -⟩ := read_eq_ok_iff.1 h
  let found := Record.sortedBy q.orders ((l.rowsOf m.tableName).filter (m.admits q))
  have hlength : found.length = ((l.rowsOf m.tableName).filter (m.admits q)).length :=
    (Record.perm_sortedBy _ _).length_eq
  refine ⟨found.map (Table.project (q.columnsFor m)), ?_, ?_, fun limit offset => ?_⟩
  · rw [List.length_map, hlength]
    exact List.length_filter_le _ _
  · rw [List.length_map, hlength]
    exact count_of_canAsk ht hcan
  · have hread : l.read m { q with limit, offset } =
        .ok ((Table.window offset limit found).map (Table.project (q.columnsFor m))) :=
      read_eq_ok_iff.2 ⟨t, ht, ⟨hcan.select, hcan.orders, hcan.wheres, hcan.selected, hcan.ordered,
        hcan.filtered, hcan.marked⟩, rfl⟩
    rw [run_of_no_loads (q := { q with limit, offset }) hw, hread, Table.window_map]

/-- A page that starts behind the last row is not read and has no rows; of another one the window is read. -/
theorem pageRows_cases (l : Library) (m : Model) (q : Descriptor) (total : UInt64) {page : UInt64}
    (hpage : 1 ≤ page.toNat) (size : UInt64) :
    (total.toNat ≤ (page.toNat - 1) * size.toNat ∧ l.pageRows m q total page size = .ok []) ∨
      ∃ offset : UInt64, offset.toNat = (page.toNat - 1) * size.toNat ∧ offset.toNat < total.toNat ∧
        l.pageRows m q total page size = l.run m ((q.limitedTo size).startingAt offset) := by
  have hbefore : (page - 1).toNat = page.toNat - 1 :=
    UInt64.toNat_sub_of_le _ _ (UInt64.le_iff_toNat_le.2 hpage)
  unfold pageRows
  by_cases hinside : (page - 1).toNat * size.toNat < total.toNat
  · obtain ⟨offset, hoffset, hvalue⟩ := checkedMul?_eq_some hinside
    rw [← hvalue] at hinside
    refine Or.inr ⟨offset, hbefore ▸ hvalue, hinside, ?_⟩
    simp only [hoffset, if_pos (UInt64.lt_iff_toNat_lt.2 hinside)]
  · refine Or.inl ⟨hbefore ▸ Nat.not_lt.1 hinside, ?_⟩
    split
    next offset hoffset =>
      refine if_neg fun hlt => hinside ?_
      rw [← toNat_of_checkedMul? hoffset]
      exact UInt64.lt_iff_toNat_lt.1 hlt
    next => rfl

/-- The rows of a page are the part of the whole result that the page stands for. A window behind the last row
is not read, and there is nothing in it. -/
theorem pageRows_eq {rows : List Record} {total : UInt64} (htotal : total.toNat = rows.length)
    (hwindow : ∀ limit offset : Option UInt64,
      l.run m { q with limit, offset } = .ok (Table.window offset limit rows))
    {page : UInt64} (hpage : 1 ≤ page.toNat) (size : UInt64) :
    l.pageRows m q total page size = .ok (Page.slice rows page.toNat size.toNat) := by
  rcases l.pageRows_cases m q total hpage size with ⟨hbehind, hnone⟩ | ⟨offset, hvalue, -, hread⟩
  · rw [hnone, Page.slice_eq_nil (htotal ▸ hbehind)]
  · rw [hread]
    refine (hwindow (some size) (some offset)).trans (congrArg Except.ok ?_)
    rw [Table.window, Option.getD_some, hvalue, Page.slice]

/-- A page of the rows of a request is the one that the whole result has under its number. -/
theorem paginate_eq {rows : List Record} (hcount : l.count m q = .ok rows.length)
    (hwindow : ∀ limit offset : Option UInt64,
      l.run m { q with limit, offset } = .ok (Table.window offset limit rows))
    (hrows : rows.length < 2 ^ 64) (number size : UInt64) :
    l.paginate m q number size = .ok (.numbered rows (Page.sizeFor size) (max number.toNat 1)) := by
  have hnumber : 1 ≤ (max number 1).toNat := by
    rw [toNat_max_one]
    exact Nat.le_max_right _ _
  have hslice := pageRows_eq (UInt64.toNat_ofNat_of_lt' hrows) hwindow hnumber (Page.sizeFor size)
  refine bind_eq_ok_iff.2 ⟨rows.length, hcount, bind_eq_ok_iff.2 ⟨_, hslice, ?_⟩⟩
  rw [Page.numbered, ← toNat_max_one, UInt64.ofNat_toNat]
  rfl

/-- The pages that are met from the page of a number on by going to the next page until there is none. -/
inductive Visits (l : Library) (m : Model) (q : Descriptor) (size : UInt64) : UInt64 → List Page → Prop
  | last {number : UInt64} {p : Page} (h : l.paginate m q number size = .ok p) (hnext : p.next = -1) :
      Visits l m q size number [p]
  | more {number : UInt64} {p : Page} {rest : List Page} (h : l.paginate m q number size = .ok p)
      (hnext : p.next ≠ -1) (hrest : Visits l m q size p.next.toUInt64 rest) : Visits l m q size number (p :: rest)

/-- The pages that are met are determined by where one starts. -/
theorem Visits.unique {size number : UInt64} {pages pages' : List Page} (h : l.Visits m q size number pages)
    (h' : l.Visits m q size number pages') : pages' = pages := by
  induction h generalizing pages' with
  | last hp hnext =>
    cases h' with
    | last hp' => rw [Except.ok.inj (hp'.symm.trans hp)]
    | more hp' hnext' => exact absurd (Except.ok.inj (hp'.symm.trans hp) ▸ hnext) hnext'
  | more hp hnext _ ih =>
    cases h' with
    | last hp' hnext' => exact absurd hnext' (Except.ok.inj (hp'.symm.trans hp) ▸ hnext)
    | more hp' _ hrest' =>
      have hsame := Except.ok.inj (hp'.symm.trans hp)
      rw [hsame] at hrest' ⊢
      rw [ih hrest']

/-- Going on to the next page visits the pages up to the last one, each once, and ends there. -/
theorem visits_numbered {rows : List Record} (hcount : l.count m q = .ok rows.length)
    (hwindow : ∀ limit offset : Option UInt64,
      l.run m { q with limit, offset } = .ok (Table.window offset limit rows))
    (hrows : rows.length < 2 ^ 64) (size : UInt64) {first left : Nat} (hfirst : 1 ≤ first)
    (hlast : rows.length ≤ (first + left) * (Page.sizeFor size).toNat)
    (hbefore : ∀ n, n < first + left → 1 ≤ n → n * (Page.sizeFor size).toNat < rows.length)
    (hword : first + left < 2 ^ 63) :
    l.Visits m q size (UInt64.ofNat first)
      ((List.range' first (left + 1)).map (Page.numbered rows (Page.sizeFor size))) := by
  have hpage : ∀ n, 1 ≤ n → n < 2 ^ 64 →
      l.paginate m q (UInt64.ofNat n) size = .ok (.numbered rows (Page.sizeFor size) n) := by
    intro n hn hlt
    rw [paginate_eq hcount hwindow hrows, UInt64.toNat_ofNat_of_lt' hlt, Nat.max_eq_left hn]
  induction left generalizing first with
  | zero => exact .last (hpage first hfirst (by omega)) (Page.next_numbered_last hrows (by omega) hlast)
  | succ left ih =>
    have hnext := Page.next_numbered hrows (by omega) (hbefore first (by omega) hfirst)
    have hto : (Page.numbered rows (Page.sizeFor size) first).next.toUInt64 = UInt64.ofNat (first + 1) := by
      rw [hnext]
      exact Int64.toUInt64_ofNat'
    have hsum : first + 1 + left = first + (left + 1) := by omega
    rw [List.range'_succ, List.map_cons]
    refine .more (hpage first hfirst (by omega)) ?_ ?_
    · rw [hnext]
      exact Page.ofNat_ne_neg_one (by omega)
    · rw [hto]
      exact ih (by omega) (by rwa [hsum]) (by rwa [hsum]) (by omega)

/-- The pages of a request without eager-loads tile its whole result. Each page reports how many rows and pages
there are, is full when another page follows, and is empty behind the last one; and going from the first page to
the next one until there is none visits each page once, in order, and meets the whole result. -/
theorem pages_tile {result : List Record} (hw : q.withs = []) (hrun : l.run m q = .ok result)
    (hstored : (l.rowsOf m.tableName).length < twoTo 63 - 1) (size : UInt64) :
    ∃ (rows : List Record) (pages : UInt64), l.run m q.unlimited = .ok rows ∧ l.count m q = .ok rows.length ∧
      (∀ n, n < pages.toNat ↔ n * (Page.sizeFor size).toNat < rows.length) ∧
      (∀ number : UInt64, ∃ p, l.paginate m q number size = .ok p ∧ p.total.toNat = rows.length ∧
        p.pages = pages ∧ p.page.toNat = max number.toNat 1 ∧
        (p.page < pages → p.data.length = (Page.sizeFor size).toNat) ∧ (pages < p.page → p.data = [])) ∧
      ∃ visited, l.Visits m q size 1 visited ∧ (∀ other, l.Visits m q size 1 other → other = visited) ∧
        visited.map (fun p => p.page.toNat) = List.range' 1 (max 1 pages.toNat) ∧
        visited.flatMap Page.data = rows := by
  obtain ⟨rows, hle, hcount, hwindow⟩ := exists_rows hw hrun
  rw [twoTo_eq] at hstored
  have hrows : rows.length < 2 ^ 64 := by omega
  have hs := Page.sizeFor_pos size
  have hpages := Page.lt_pages_iff hs hrows 1
  have hsame : ∀ n, (Page.numbered rows (Page.sizeFor size) n).pages =
      (Page.numbered rows (Page.sizeFor size) 1).pages := fun _ => rfl
  generalize (Page.numbered rows (Page.sizeFor size) 1).pages = pages at hpages hsame
  -- behind the last page there is nothing
  have hbehind : rows.length ≤ pages.toNat * (Page.sizeFor size).toNat :=
    Nat.not_lt.1 (mt (hpages pages.toNat).2 (Nat.lt_irrefl _))
  refine ⟨rows, pages, hwindow none none, hcount, hpages, fun number => ?_, ?_⟩
  · have hword := number.toNat_lt
    have hpage : (UInt64.ofNat (max number.toNat 1)).toNat = max number.toNat 1 :=
      UInt64.toNat_ofNat_of_lt' (by rw [UInt64.size]; omega)
    refine ⟨_, paginate_eq hcount hwindow hrows number size, UInt64.toNat_ofNat_of_lt' hrows, hsame _, hpage,
      fun hlt => ?_, fun hlt => ?_⟩
    · have hmore := (hpages _).1 (UInt64.lt_iff_toNat_lt.1 hlt)
      rw [Page.numbered, Page.of, hpage] at hmore
      exact Page.length_slice (by omega) (Nat.le_of_lt hmore)
    · have hlate := UInt64.lt_iff_toNat_lt.1 hlt
      rw [Page.numbered, Page.of, hpage] at hlate
      exact Page.slice_eq_nil (Nat.le_trans hbehind (Nat.mul_le_mul_right _ (by omega)))
  · have hcover : rows.length ≤ max 1 pages.toNat * (Page.sizeFor size).toNat :=
      Nat.le_trans hbehind (Nat.mul_le_mul_right _ (Nat.le_max_right _ _))
    have hfew : pages.toNat ≤ rows.length := by
      by_contra hmany
      have := (hpages rows.length).1 (Nat.not_le.1 hmany)
      have := Nat.le_mul_of_pos_right rows.length hs
      omega
    have hsteps : 1 + (max 1 pages.toNat - 1) = max 1 pages.toNat := by omega
    have hlast : rows.length ≤ (1 + (max 1 pages.toNat - 1)) * (Page.sizeFor size).toNat := by rwa [hsteps]
    have hvisits := visits_numbered hcount hwindow hrows size (Nat.le_refl 1) hlast
      (fun n hn _ => (hpages n).1 (by omega)) (by omega)
    rw [Nat.add_comm _ 1, hsteps] at hvisits
    refine ⟨_, hvisits, fun _ hother => hvisits.unique hother, ?_, ?_⟩
    · rw [List.map_map]
      refine (List.map_congr_left fun n hn => ?_).trans (List.map_id _)
      have := List.mem_range'_1.1 hn
      exact UInt64.toNat_ofNat_of_lt' (by rw [UInt64.size]; omega)
    · rw [List.flatMap_map]
      exact (Page.flatMap_slice rows _ _).trans (List.take_of_length_le hcover)

end Library

namespace Sample

/-- The request for the last of all names. -/
def lastName : Descriptor :=
  { Descriptor.empty with select := ["name"], orders := [⟨"id", .desc⟩], limit := some 1, offset := some 1 }

/-- The two authors who are not deleted stand on two pages of one row, whatever window was asked for. -/
theorem authors_in_pages :
    ∃ (rows : List Record) (pages : UInt64), library.run author lastName.unlimited = .ok rows ∧
      library.count author lastName = .ok rows.length ∧
      (∀ n, n < pages.toNat ↔ n * (Page.sizeFor 1).toNat < rows.length) ∧
      (∀ number : UInt64, ∃ p, library.paginate author lastName number 1 = .ok p ∧
        p.total.toNat = rows.length ∧ p.pages = pages ∧ p.page.toNat = max number.toNat 1 ∧
        (p.page < pages → p.data.length = (Page.sizeFor 1).toNat) ∧ (pages < p.page → p.data = [])) ∧
      ∃ visited, library.Visits author lastName 1 1 visited ∧
        (∀ other, library.Visits author lastName 1 1 other → other = visited) ∧
        visited.map (fun p => p.page.toNat) = List.range' 1 (max 1 pages.toNat) ∧
        visited.flatMap Page.data = rows := by
  have hrun : library.run author lastName = .ok [[("name", .text "Ada")]] := rfl
  exact Library.pages_tile rfl hrun (by decide) 1

end Sample

end DataModel

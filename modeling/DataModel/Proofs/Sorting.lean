import DataModel.Query.Sorting
import DataModel.Value.Order
import Mathlib.Data.List.Basic
import Mathlib.Data.List.Induction

/-!
# Sorting and filtering commute

Insertion from the end keeps rows that do not differ in their places. Under a comparison that is a
total preorder the sorted rows that satisfy a condition are therefore the rows that satisfy it, sorted:
leaving rows out before or after sorting makes no difference. Cells that are no floats are compared by
such an order; it is written out here as the comparison of four components.
-/

namespace DataModel

namespace Value

/-- Whether a value is a number that is no integer. -/
def isFloat : Value → Bool
  | float _ => true
  | _ => false

/-- A truth value, as a component to compare by. -/
def truth : Value → Bool
  | bool b => b
  | _ => false

/-- An integer, as a component to compare by. -/
def whole : Value → Int
  | int n => n.toInt
  | _ => 0

/-- A text, as a component to compare by. -/
def words : Value → String
  | text s => s
  | _ => ""

/-- Values by rank, and within a rank by what they hold. Lists and maps do not differ. -/
def exactOrder : Value → Value → Ordering :=
  compareLex (compareOn rank) (compareLex (compareOn truth) (compareLex (compareOn whole) (compareOn words)))

instance : Std.TransCmp exactOrder :=
  inferInstanceAs (Std.TransCmp (compareLex _ (compareLex _ (compareLex _ _))))

/-- Two values of which none is a float are ordered by the components. -/
theorem order_getD_eq {a b : Value} (ha : a.isFloat = false) (hb : b.isFloat = false) :
    (a.order b).getD .eq = exactOrder a b := by
  -- one component differs for each kind of value, and the others agree
  cases a <;> cases b <;>
    simp_all [isFloat, order, exactOrder, compareLex, compareOn, rank, truth, whole, words,
      Std.ReflCmp.compare_self, Ordering.then_eq] <;> rfl

end Value

namespace Record

/-- Rows by the first column on which they differ, with cells compared by their components. -/
def exactCompare : List Order → Record → Record → Ordering
  | [] => fun _ _ => .eq
  | o :: orders =>
    compareLex (fun a b => o.direction.apply (Value.exactOrder (cell a o.column) (cell b o.column)))
      (exactCompare orders)

section

variable {α β : Type} (cmp : β → β → Ordering) [Std.TransCmp cmp]

theorem transCmp_comap (f : α → β) : Std.TransCmp fun a b => cmp (f a) (f b) where
  eq_swap {_ _} := @Std.OrientedCmp.eq_swap _ cmp _ _ _
  isLE_trans {_ _ _} := @Std.TransCmp.isLE_trans _ cmp _ _ _ _

/-- A total preorder seen from either direction is one. -/
theorem transCmp_apply (d : Direction) : Std.TransCmp fun a b => d.apply (cmp a b) := by
  cases d with
  | asc => exact inferInstanceAs (Std.TransCmp cmp)
  | desc =>
    have hs : (fun a b => Direction.desc.apply (cmp a b)) = fun a b => cmp b a := by
      funext a b
      exact Std.OrientedCmp.eq_swap.symm
    rw [hs]
    exact Std.TransCmp.opposite

end

instance transCmp_exactCompare (orders : List Order) : Std.TransCmp (exactCompare orders) := by
  induction orders with
  | nil => exact { eq_swap := rfl, isLE_trans := fun _ _ => rfl }
  | cons o orders ih =>
    have hcell := transCmp_comap Value.exactOrder fun row : Record => cell row o.column
    have hfirst := transCmp_apply (fun a b : Record => Value.exactOrder (cell a o.column) (cell b o.column)) o.direction
    rw [exactCompare]
    infer_instance

/-- Rows whose cells under the columns of an order list are no floats. -/
def AllExact (orders : List Order) (rows : List Record) : Prop :=
  ∀ row ∈ rows, ∀ o ∈ orders, (cell row o.column).isFloat = false

/-- The first column decides, and the others where it does not. -/
theorem compareBy_cons (o : Order) (orders : List Order) (a b : Record) : compareBy (o :: orders) a b =
    (o.direction.apply (((cell a o.column).order (cell b o.column)).getD .eq)).then (compareBy orders a b) := by
  rw [compareBy]
  cases o.direction.apply (((cell a o.column).order (cell b o.column)).getD .eq) <;> rfl

/-- The order of two rows depends on the cells that are ordered by only. -/
theorem compareBy_congr {orders : List Order} {a b a' b' : Record}
    (ha : ∀ o ∈ orders, cell a' o.column = cell a o.column) (hb : ∀ o ∈ orders, cell b' o.column = cell b o.column) :
    compareBy orders a' b' = compareBy orders a b := by
  induction orders with
  | nil => rfl
  | cons o orders ih =>
    rw [List.forall_mem_cons] at ha hb
    rw [compareBy, compareBy, ha.1, hb.1, ih ha.2 hb.2]

theorem compareBy_eq {orders : List Order} {a b : Record}
    (ha : ∀ o ∈ orders, (cell a o.column).isFloat = false)
    (hb : ∀ o ∈ orders, (cell b o.column).isFloat = false) :
    compareBy orders a b = exactCompare orders a b := by
  induction orders with
  | nil => rfl
  | cons o orders ih =>
    rw [List.forall_mem_cons] at ha hb
    rw [compareBy_cons, Value.order_getD_eq ha.1 hb.1, ih ha.2 hb.2]
    rfl

section Insertion

variable {cmp : Record → Record → Ordering}

theorem perm_insertLast (row : Record) (rows : List Record) : (insertLast cmp row rows).Perm (row :: rows) := by
  induction rows with
  | nil => exact .refl _
  | cons last earlier ih =>
    rw [insertLast]
    split
    · exact (ih.cons last).trans (.swap row last earlier)
    · exact .refl _

theorem insertLast_congr {cmp' : Record → Record → Ordering} {row : Record} {rows : List Record}
    (h : ∀ r ∈ rows, cmp row r = cmp' row r) : insertLast cmp row rows = insertLast cmp' row rows := by
  induction rows with
  | nil => rfl
  | cons last earlier ih =>
    rw [List.forall_mem_cons] at h
    rw [insertLast, insertLast, h.1, ih h.2]

/-- Rows that stand last first: none is less than one that stands behind it. -/
def Descending (cmp : Record → Record → Ordering) (rows : List Record) : Prop :=
  rows.Pairwise fun later earlier => (cmp earlier later).isLE = true

theorem descending_insertLast [Std.TransCmp cmp] {row : Record} {rows : List Record}
    (h : Descending cmp rows) : Descending cmp (insertLast cmp row rows) := by
  induction rows with
  | nil => exact List.pairwise_singleton _ _
  | cons last earlier ih =>
    obtain ⟨hlast, hearlier⟩ := List.pairwise_cons.1 h
    rw [insertLast]
    split
    next hlt =>
      refine List.pairwise_cons.2 ⟨fun r hr => ?_, ih hearlier⟩
      rcases List.mem_cons.1 ((perm_insertLast row earlier).mem_iff.1 hr) with rfl | hr
      · exact Ordering.isLE_of_eq_lt hlt
      · exact hlast r hr
    next hlt =>
      have hle : (cmp last row).isLE = true := by
        rw [← Std.OrientedCmp.isGE_iff_isLE, Ordering.isGE_iff_ne_lt]
        exact hlt
      refine List.pairwise_cons.2 ⟨fun r hr => ?_, h⟩
      rcases List.mem_cons.1 hr with rfl | hr
      · exact hle
      · exact Std.TransCmp.isLE_trans (hlast r hr) hle

/-- A row that is left out leaves no trace. -/
theorem filter_insertLast_of_not {p : Record → Bool} {row : Record} (hp : p row = false) (rows : List Record) :
    (insertLast cmp row rows).filter p = rows.filter p := by
  induction rows with
  | nil => simp [insertLast, hp]
  | cons last earlier ih =>
    rw [insertLast]
    split
    · rw [List.filter_cons, List.filter_cons, ih]
    · rw [List.filter_cons, if_neg (by simp [hp])]

/-- A row that is kept finds the same place among those that are kept. If it is put in front of a row
that is left out, all rows behind that one are not greater than it either. -/
theorem filter_insertLast_of_pos [Std.TransCmp cmp] {p : Record → Bool} {row : Record} (hp : p row = true)
    {rows : List Record} (h : Descending cmp rows) :
    (insertLast cmp row rows).filter p = insertLast cmp row (rows.filter p) := by
  induction rows with
  | nil => simp [insertLast, hp]
  | cons last earlier ih =>
    obtain ⟨hlast, hearlier⟩ := List.pairwise_cons.1 h
    rw [insertLast]
    by_cases hlt : cmp row last = .lt
    · rw [if_pos hlt, List.filter_cons, ih hearlier, List.filter_cons]
      split
      · rw [insertLast, if_pos hlt]
      · rfl
    · rw [if_neg hlt, List.filter_cons, if_pos hp]
      -- the row that stopped it may be left out, but it is not less than those behind that one either
      have hfront : ∀ kept : List Record, (∀ r ∈ kept, r ∈ last :: earlier) →
          insertLast cmp row kept = row :: kept := by
        intro kept hk
        cases kept with
        | nil => rfl
        | cons r kept =>
          have hr : cmp row r ≠ .lt := by
            rcases List.mem_cons.1 (hk r List.mem_cons_self) with rfl | hr
            · exact hlt
            · intro hrow
              exact hlt (Std.TransCmp.lt_of_lt_of_isLE hrow (hlast r hr))
          rw [insertLast, if_neg hr]
      exact (hfront _ fun r hr => (List.mem_filter.1 hr).1).symm

/-- Rows inserted one after the other into rows that stand last first. -/
def insertAll (cmp : Record → Record → Ordering) (rows sorted : List Record) : List Record :=
  rows.foldl (fun sorted row => insertLast cmp row sorted) sorted

theorem perm_insertAll (rows sorted : List Record) : (insertAll cmp rows sorted).Perm (rows ++ sorted) := by
  induction rows generalizing sorted with
  | nil => exact .refl _
  | cons row rows ih =>
    refine (ih (insertLast cmp row sorted)).trans ?_
    exact ((perm_insertLast row sorted).append_left rows).trans List.perm_middle

theorem insertAll_congr {cmp' : Record → Record → Ordering} {rows sorted : List Record}
    (h : ∀ row ∈ rows, ∀ r ∈ rows ++ sorted, cmp row r = cmp' row r) :
    insertAll cmp rows sorted = insertAll cmp' rows sorted := by
  induction rows generalizing sorted with
  | nil => rfl
  | cons row rows ih =>
    have hrow : insertLast cmp row sorted = insertLast cmp' row sorted :=
      insertLast_congr fun r hr => h row List.mem_cons_self r (List.mem_append_right _ hr)
    change insertAll cmp rows (insertLast cmp row sorted) = insertAll cmp' rows (insertLast cmp' row sorted)
    rw [hrow]
    refine ih fun s hs r hr => h s (List.mem_cons_of_mem _ hs) r ?_
    rcases List.mem_append.1 hr with hr | hr
    · exact List.mem_append_left _ (List.mem_cons_of_mem _ hr)
    · rcases List.mem_cons.1 ((perm_insertLast row sorted).mem_iff.1 hr) with rfl | hr
      · exact List.mem_append_left _ List.mem_cons_self
      · exact List.mem_append_right _ hr

theorem filter_insertAll [Std.TransCmp cmp] (p : Record → Bool) (rows : List Record) {sorted : List Record}
    (h : Descending cmp sorted) :
    (insertAll cmp rows sorted).filter p = insertAll cmp (rows.filter p) (sorted.filter p) := by
  induction rows generalizing sorted with
  | nil => rfl
  | cons row rows ih =>
    change (insertAll cmp rows (insertLast cmp row sorted)).filter p = _
    rw [ih (descending_insertLast h), List.filter_cons]
    cases hp : p row with
    | false => rw [filter_insertLast_of_not hp]; rfl
    | true => rw [filter_insertLast_of_pos hp h]; rfl

theorem descending_insertAll [Std.TransCmp cmp] (rows : List Record) {sorted : List Record}
    (h : Descending cmp sorted) : Descending cmp (insertAll cmp rows sorted) := by
  induction rows generalizing sorted with
  | nil => exact h
  | cons row rows ih => exact ih (descending_insertLast h)

/-- A row comes to stand before all others, or it is not less than one of them and the first one stays. -/
theorem getLast?_insertLast {row first : Record} {rows : List Record}
    (h : (insertLast cmp row rows).getLast? = some first) :
    (first = row ∧ ∀ r ∈ rows, cmp row r = .lt) ∨ (rows.getLast? = some first ∧ ∃ r ∈ rows, cmp row r ≠ .lt) := by
  induction rows with
  | nil =>
    left
    simpa [insertLast, eq_comm] using h
  | cons last earlier ih =>
    rw [insertLast] at h
    split at h
    next hlt =>
      have hne : insertLast cmp row earlier ≠ [] := fun hnil => by
        have hperm : (insertLast cmp row earlier).Perm (row :: earlier) := perm_insertLast row earlier
        rw [hnil] at hperm
        exact List.cons_ne_nil _ _ (List.nil_perm.1 hperm)
      rw [List.getLast?_cons, List.getLast?_eq_some_getLast hne, Option.getD_some] at h
      rcases ih (by rw [List.getLast?_eq_some_getLast hne, h]) with ⟨hfirst, hall⟩ | ⟨hlast, r, hr, hstops⟩
      · exact Or.inl ⟨hfirst, List.forall_mem_cons.2 ⟨hlt, hall⟩⟩
      · right
        refine ⟨?_, r, List.mem_cons_of_mem _ hr, hstops⟩
        rw [List.getLast?_cons, hlast, Option.getD_some]
    next hstops =>
      right
      refine ⟨?_, last, List.mem_cons_self, hstops⟩
      rwa [List.getLast?_cons_cons] at h

/-- The first of sorted rows stands before all that come earlier, and none that comes later stands before it. -/
theorem exists_first_insertAll [Std.TransCmp cmp] {first : Record} {rows : List Record}
    (h : (insertAll cmp rows []).getLast? = some first) :
    ∃ before after, rows = before ++ first :: after ∧ (∀ r ∈ before, cmp first r = .lt) ∧
      ∀ r ∈ after, (cmp first r).isLE = true := by
  induction rows using List.reverseRecOn with
  | nil => cases h
  | append_singleton rows row ih =>
    have hinsert : insertAll cmp (rows ++ [row]) [] = insertLast cmp row (insertAll cmp rows []) := by
      simp [insertAll, List.foldl_append]
    have hperm : (insertAll cmp rows []).Perm (rows ++ []) := perm_insertAll rows []
    rw [List.append_nil] at hperm
    rw [hinsert] at h
    rcases getLast?_insertLast h with ⟨rfl, hall⟩ | ⟨hlast, r, hr, hstops⟩
    · exact ⟨rows, [], rfl, fun r hr => hall r (hperm.mem_iff.2 hr), nofun⟩
    · obtain ⟨before, after, rfl, hbefore, hafter⟩ := ih hlast
      refine ⟨before, after ++ [row], by simp, hbefore, ?_⟩
      -- the row is not less than one of the others, and none of those is less than the first
      have hle : (cmp r row).isLE = true := by
        rw [← Std.OrientedCmp.isGE_iff_isLE, Ordering.isGE_iff_ne_lt]
        exact hstops
      have hfirst : (cmp first r).isLE = true := by
        have hdesc : Descending cmp (insertAll cmp (before ++ first :: after) []) :=
          descending_insertAll _ List.Pairwise.nil
        obtain ⟨init, hinit⟩ := List.getLast?_eq_some_iff.1 hlast
        rw [hinit] at hr hdesc
        rcases List.mem_append.1 hr with hr | hr
        · exact (List.pairwise_append.1 hdesc).2.2 r hr first (List.mem_singleton_self first)
        · have hself : cmp first first = .eq := Std.ReflCmp.compare_self
          rw [List.mem_singleton.1 hr, hself]
          rfl
      intro s hs
      rcases List.mem_append.1 hs with hs | hs
      · exact hafter s hs
      · rw [List.mem_singleton.1 hs]
        exact Std.TransCmp.isLE_trans hfirst hle

end Insertion

/-- Whether an order compares rows as a total preorder does. -/
def Ranked (orders : List Order) (rows : List Record) : Prop :=
  ∃ cmp : Record → Record → Ordering, Std.TransCmp cmp ∧ ∀ a ∈ rows, ∀ b ∈ rows, compareBy orders a b = cmp a b

theorem AllExact.ranked {orders : List Order} {rows : List Record} (h : AllExact orders rows) : Ranked orders rows :=
  ⟨exactCompare orders, inferInstance, fun a ha b hb => compareBy_eq (h a ha) (h b hb)⟩

theorem Ranked.filter {orders : List Order} {rows : List Record} (h : Ranked orders rows) (p : Record → Bool) :
    Ranked orders (rows.filter p) := by
  obtain ⟨cmp, htrans, hcmp⟩ := h
  exact ⟨cmp, htrans, fun a ha b hb => hcmp a (List.mem_filter.1 ha).1 b (List.mem_filter.1 hb).1⟩

theorem sortedBy_eq {orders : List Order} (h : orders ≠ []) (rows : List Record) :
    sortedBy orders rows = (insertAll (compareBy orders) rows []).reverse := by
  rw [sortedBy, if_neg (by simpa using h)]
  rfl

/-- Sorting loses no row and makes none up. -/
theorem perm_sortedBy (orders : List Order) (rows : List Record) : (sortedBy orders rows).Perm rows := by
  by_cases h : orders = []
  · subst h
    exact .refl _
  · rw [sortedBy_eq h]
    have hp : (insertAll (compareBy orders) rows []).Perm (rows ++ []) := perm_insertAll rows []
    rw [List.append_nil] at hp
    exact (List.reverse_perm _).trans hp

/-- Rows are inserted by any comparison that agrees on them. -/
theorem insertAll_compareBy {orders : List Order} {rows : List Record} {cmp : Record → Record → Ordering}
    (h : ∀ a ∈ rows, ∀ b ∈ rows, compareBy orders a b = cmp a b) :
    insertAll (compareBy orders) rows [] = insertAll cmp rows [] := by
  refine insertAll_congr fun a ha b hb => h a ha b ?_
  rwa [List.append_nil] at hb

/-- Sorting and filtering commute, as long as the rows are compared by a total preorder. -/
theorem sortedBy_filter {orders : List Order} {rows : List Record} (h : Ranked orders rows)
    (p : Record → Bool) : sortedBy orders (rows.filter p) = (sortedBy orders rows).filter p := by
  by_cases ho : orders = []
  · subst ho
    rfl
  obtain ⟨cmp, _, hcmp⟩ := h
  have hkept : ∀ a ∈ rows.filter p, ∀ b ∈ rows.filter p, compareBy orders a b = cmp a b := fun a ha b hb =>
    hcmp a (List.mem_filter.1 ha).1 b (List.mem_filter.1 hb).1
  rw [sortedBy_eq ho, sortedBy_eq ho, List.filter_reverse, insertAll_compareBy hcmp, insertAll_compareBy hkept,
    filter_insertAll p rows List.Pairwise.nil]
  rfl

/-- Whether rows stand in an order: none comes after one that is greater. -/
def InOrder (orders : List Order) (rows : List Record) : Prop :=
  rows.Pairwise fun a b => compareBy orders a b ≠ .gt

theorem InOrder.sublist {orders : List Order} {rows some : List Record} (h : InOrder orders rows)
    (hs : some.Sublist rows) : InOrder orders some :=
  List.Pairwise.sublist hs h

/-- Sorted rows stand in order, as long as they are compared by a total preorder. -/
theorem inOrder_sortedBy {orders : List Order} {rows : List Record} (h : Ranked orders rows) :
    InOrder orders (sortedBy orders rows) := by
  by_cases ho : orders = []
  · subst ho
    exact List.pairwise_of_forall fun _ _ => nofun
  obtain ⟨cmp, _, hcmp⟩ := h
  have hmem : ∀ r ∈ insertAll cmp rows [], r ∈ rows := fun r hr => by
    simpa using (perm_insertAll rows []).mem_iff.1 hr
  rw [sortedBy_eq ho, insertAll_compareBy hcmp, InOrder, List.pairwise_reverse]
  refine (descending_insertAll rows List.Pairwise.nil).imp_of_mem fun {a b} ha hb hle => ?_
  rw [hcmp b (hmem b hb) a (hmem a ha)]
  exact Ordering.isLE_iff_ne_gt.1 hle

/-- Whether a row is the first of some rows in an order: it stands before every row that comes earlier, and no row
that comes later stands before it. -/
def IsFirst (orders : List Order) (rows : List Record) (first : Record) : Prop :=
  ∃ before after, rows = before ++ first :: after ∧ (∀ r ∈ before, compareBy orders first r = .lt) ∧
    ∀ r ∈ after, compareBy orders first r ≠ .gt

/-- Sorted rows begin with the first one, as long as they are compared by a total preorder. -/
theorem isFirst_of_sortedBy {orders : List Order} {rows : List Record} (h : Ranked orders rows) {first : Record}
    (hfirst : (sortedBy orders rows).head? = some first) : IsFirst orders rows first := by
  by_cases ho : orders = []
  · subst ho
    obtain ⟨rest, hrest⟩ := List.head?_eq_some_iff.1 (hfirst : rows.head? = some first)
    exact ⟨[], rest, hrest, nofun, fun _ _ => nofun⟩
  obtain ⟨cmp, _, hcmp⟩ := h
  rw [sortedBy_eq ho, insertAll_compareBy hcmp, List.head?_reverse] at hfirst
  obtain ⟨before, after, rfl, hbefore, hafter⟩ := exists_first_insertAll hfirst
  have hsame : ∀ r ∈ before ++ first :: after, compareBy orders first r = cmp first r :=
    hcmp first (List.mem_append_right _ List.mem_cons_self)
  refine ⟨before, after, rfl, fun r hr => ?_, fun r hr => ?_⟩
  · rw [hsame r (List.mem_append_left _ hr)]
    exact hbefore r hr
  · rw [hsame r (List.mem_append_right _ (List.mem_cons_of_mem _ hr))]
    exact Ordering.isLE_iff_ne_gt.1 (hafter r hr)

end Record

end DataModel

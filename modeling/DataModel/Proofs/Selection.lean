import DataModel.Proofs.Sample

/-!
# A selection is a part of the sorted rows

To the rows that pass a filter there is one list that has them in the order asked for (`Record.StablySorts`),
with rows that do not differ in any of its columns as they are stored. Cells are in order when null comes
before the truth values, these before numbers and these before texts, and within a kind by what they hold. The
selection of a table has the segment of this list that its offset and its limit say, with the columns asked
for, and to count the rows is to count the list. So segments that follow each other can be put together, also
where they reach behind the end.
-/

namespace DataModel

namespace Record

/-- Whether rows are those of another list in order, and those that do not differ stand as they stood there. -/
structure StablySorts (cmp : Record → Record → Ordering) (rows sorted : List Record) : Prop where
  perm : sorted.Perm rows
  inOrder : sorted.Pairwise fun a b => (cmp a b).isLE = true
  stable : ∀ row ∈ rows, (sorted.filter fun r => cmp r row = .eq) = rows.filter fun r => cmp r row = .eq

section

variable {cmp : Record → Record → Ordering}

/-- Rows in order are determined by which rows they are and how those stand that do not differ. -/
theorem eq_of_pairwise_isLE [Std.TransCmp cmp] {rows rows' : List Record} (hperm : rows.Perm rows')
    (h : rows.Pairwise fun a b => (cmp a b).isLE = true) (h' : rows'.Pairwise fun a b => (cmp a b).isLE = true)
    (hties : ∀ row ∈ rows, (rows.filter fun r => cmp r row = .eq) = rows'.filter fun r => cmp r row = .eq) :
    rows = rows' := by
  induction rows generalizing rows' with
  | nil => exact (List.nil_perm.1 hperm).symm
  | cons row rows ih =>
    cases rows' with
    | nil => exact absurd (List.perm_nil.1 hperm) (List.cons_ne_nil _ _)
    | cons row' rows' =>
      obtain ⟨hrow, hrows⟩ := List.pairwise_cons.1 h
      obtain ⟨hrow', hrows'⟩ := List.pairwise_cons.1 h'
      -- each of the two that stand in front is among the others or the same
      have hle : (cmp row row').isLE = true := by
        rcases List.mem_cons.1 (hperm.mem_iff.2 List.mem_cons_self) with rfl | hmem
        · exact Std.ReflCmp.isLE_rfl
        · exact hrow row' hmem
      have hge : (cmp row' row).isLE = true := by
        rcases List.mem_cons.1 (hperm.mem_iff.1 List.mem_cons_self) with rfl | hmem
        · exact Std.ReflCmp.isLE_rfl
        · exact hrow' row hmem
      have htie : cmp row' row = .eq := Std.OrientedCmp.isLE_antisymm hge hle
      have hself : cmp row row = .eq := Std.ReflCmp.compare_self
      have hfront := hties row List.mem_cons_self
      rw [List.filter_cons_of_pos (by simpa using hself), List.filter_cons_of_pos (by simpa using htie)] at hfront
      obtain ⟨rfl, -⟩ := List.cons.inj hfront
      refine congrArg (row :: ·) (ih hperm.cons_inv hrows hrows' fun r hr => ?_)
      have hrest := hties r (List.mem_cons_of_mem _ hr)
      rw [List.filter_cons, List.filter_cons] at hrest
      split at hrest
      · exact (List.cons.inj hrest).2
      · exact hrest

/-- Rows are put in order in one way at most. -/
theorem StablySorts.unique [Std.TransCmp cmp] {rows sorted sorted' : List Record} (h : StablySorts cmp rows sorted)
    (h' : StablySorts cmp rows sorted') : sorted = sorted' :=
  eq_of_pairwise_isLE (h.perm.trans h'.perm.symm) h.inOrder h'.inOrder fun row hrow =>
    (h.stable row (h.perm.mem_iff.1 hrow)).trans (h'.stable row (h.perm.mem_iff.1 hrow)).symm

theorem StablySorts.congr {cmp' : Record → Record → Ordering} {rows sorted : List Record}
    (h : StablySorts cmp rows sorted) (hcmp : ∀ a ∈ rows, ∀ b ∈ rows, cmp' a b = cmp a b) :
    StablySorts cmp' rows sorted where
  perm := h.perm
  inOrder := h.inOrder.imp_of_mem fun {a b} ha hb hle => by
    rwa [hcmp a (h.perm.mem_iff.1 ha) b (h.perm.mem_iff.1 hb)]
  stable row hrow := by
    have hties : ∀ some : List Record, (∀ r ∈ some, r ∈ rows) →
        (some.filter fun r => cmp' r row = .eq) = some.filter fun r => cmp r row = .eq := fun some hsome =>
      List.filter_congr fun r hr => by rw [hcmp r (hsome r hr) row hrow]
    rw [hties sorted fun r => h.perm.mem_iff.1, hties rows fun r => id]
    exact h.stable row hrow

/-- Rows of which none is less than one before it are inserted one behind the other. -/
theorem insertAll_of_pairwise {rows sorted : List Record}
    (h : (sorted.reverse ++ rows).Pairwise fun a b => cmp b a ≠ .lt) :
    insertAll cmp rows sorted = rows.reverse ++ sorted := by
  induction rows generalizing sorted with
  | nil => rfl
  | cons row rows ih =>
    have hlast : insertLast cmp row sorted = row :: sorted := by
      cases sorted with
      | nil => rfl
      | cons last earlier =>
        exact if_neg ((List.pairwise_append.1 h).2.2 last (by simp) row List.mem_cons_self)
    change insertAll cmp rows (insertLast cmp row sorted) = _
    rw [hlast, ih (by simpa using h), List.reverse_cons, List.append_assoc]
    rfl

variable {orders : List Order} {rows : List Record}

/-- Sorting makes the list of the rows in order, as long as they are compared by a total preorder. -/
theorem stablySorts_sortedBy [Std.TransCmp cmp] (hcmp : ∀ a ∈ rows, ∀ b ∈ rows, compareBy orders a b = cmp a b) :
    StablySorts cmp rows (sortedBy orders rows) where
  perm := perm_sortedBy orders rows
  inOrder := by
    have hmem : ∀ r ∈ sortedBy orders rows, r ∈ rows := fun r => (perm_sortedBy orders rows).mem_iff.1
    refine (inOrder_sortedBy ⟨cmp, inferInstance, hcmp⟩).imp_of_mem fun ha hb hne => ?_
    rw [hcmp _ (hmem _ ha) _ (hmem _ hb)] at hne
    exact Ordering.isLE_iff_ne_gt.2 hne
  stable row _ := by
    rw [← sortedBy_filter ⟨cmp, inferInstance, hcmp⟩]
    by_cases ho : orders = []
    · subst ho
      rfl
    have hties : ∀ a ∈ rows.filter (fun r => cmp r row = .eq), a ∈ rows ∧ cmp a row = .eq := fun a ha => by
      simpa using ha
    rw [sortedBy_eq ho, insertAll_compareBy fun a ha b hb => hcmp a (hties a ha).1 b (hties b hb).1,
      insertAll_of_pairwise, List.append_nil, List.reverse_reverse]
    refine List.pairwise_of_forall_mem_list fun a ha b hb => ?_
    have htie : cmp b a = .eq := Std.TransCmp.eq_trans (hties b hb).2 (Std.OrientedCmp.eq_symm (hties a ha).2)
    rw [htie]
    exact nofun

end

end Record

namespace Table

/-- What stands at a place of a segment stands as much further behind in the list as the offset says. -/
theorem getElem?_window {α : Type} (offset limit : Option UInt64) (items : List α) (i : Nat) :
    (window offset limit items)[i]? =
      if limit.all fun n => i < n.toNat then items[(offset.getD 0).toNat + i]? else none := by
  unfold window
  cases limit with
  | none => exact List.getElem?_drop
  | some n =>
    rw [List.getElem?_take, List.getElem?_drop]
    simp only [Option.all_some, decide_eq_true_eq]

/-- A segment and the one that begins where it ends are one segment. -/
theorem window_append {α : Type} {a b c ab bc : UInt64} (hab : ab.toNat = a.toNat + b.toNat)
    (hbc : bc.toNat = b.toNat + c.toNat) (items : List α) :
    window (some a) (some b) items ++ window (some ab) (some c) items = window (some a) (some bc) items := by
  simp only [window, Option.getD_some]
  rw [hab, hbc, List.take_add, List.drop_drop]

end Table

namespace Store

/-- Whether what is read of a table are the parts of a list. Rows are selected exactly when all columns are there that
are named, and a selected row is the one at its place behind the offset, with the columns asked for. -/
structure Shows (s : Store) (name : String) (t : Table) (filter : List Where) (orders : List Order)
    (sorted : List Record) : Prop where
  select : ∀ columns limit offset rows, s.select name ⟨columns, filter, orders, limit, offset⟩ = .ok rows ↔
    ((∀ c ∈ Table.columnsOfAll filter, t.hasColumn c = true) ∧ (∀ c ∈ columns, t.hasColumn c = true) ∧
      ∀ o ∈ orders, t.hasColumn o.column = true) ∧
    ∀ i : Nat, rows[i]? =
      if limit.all fun n => i < n.toNat then (sorted[(offset.getD 0).toNat + i]?).map (Table.project columns) else none
  count : ∀ n, s.count name filter = .ok n ↔
    (∀ c ∈ Table.columnsOfAll filter, t.hasColumn c = true) ∧ n = sorted.length
  append : ∀ columns (a b c ab bc : UInt64) first second, ab.toNat = a.toNat + b.toNat → bc.toNat = b.toNat + c.toNat →
    s.select name ⟨columns, filter, orders, some b, some a⟩ = .ok first →
    s.select name ⟨columns, filter, orders, some c, some ab⟩ = .ok second →
    s.select name ⟨columns, filter, orders, some bc, some a⟩ = .ok (first ++ second)

variable {s : Store} {name : String} {t : Table} {filter : List Where} {orders : List Order}

theorem shows_sortedBy (ht : s.tables.get? name = some t) :
    s.Shows name t filter orders (Record.sortedBy orders (t.matching filter)) := by
  have hselect : ∀ selection rows, s.select name selection = .ok rows ↔ t.select name selection = .ok rows := by
    intro selection rows
    rw [Store.select, Library.table?_eq_ok_iff.2 ht]
    rfl
  refine ⟨fun columns limit offset rows => ?_, fun n => ?_, ?_⟩
  · rw [hselect, Table.select_eq_ok_iff, and_assoc, and_assoc]
    refine and_congr_right fun _ => and_congr_right fun _ => and_congr_right fun _ => ?_
    rw [List.ext_getElem?_iff]
    refine forall_congr' fun i => ?_
    rw [List.getElem?_map, Table.getElem?_window, apply_ite (Option.map (Table.project columns)), Option.map_none]
  · rw [Store.count, Library.table?_eq_ok_iff.2 ht, (Record.perm_sortedBy orders (t.matching filter)).length_eq]
    exact Table.count_eq_ok_iff
  · intro columns a b c ab bc first second hab hbc hfirst hsecond
    rw [hselect, Table.select_eq_ok_iff] at hfirst hsecond ⊢
    obtain ⟨hfilter, hcolumns, horders, rfl⟩ := hfirst
    obtain ⟨-, -, -, rfl⟩ := hsecond
    rw [← List.map_append, Table.window_append hab hbc]
    exact ⟨hfilter, hcolumns, horders, rfl⟩

/-- The rows of a table that pass a filter can be put in order in one way, and what is selected and counted are the
parts of the list that this makes, whatever the columns, the limit and the offset. The cells that are ordered by are no
floats, which are compared with integers after rounding. -/
theorem sorted_segments_selected (ht : s.tables.get? name = some t)
    (hexact : Record.AllExact orders (t.rows.filter fun row => row.passes filter)) :
    (∃ sorted, Record.StablySorts (Record.exactCompare orders) (t.rows.filter fun row => row.passes filter) sorted) ∧
      ∀ sorted,
        Record.StablySorts (Record.exactCompare orders) (t.rows.filter fun row => row.passes filter) sorted →
          s.Shows name t filter orders sorted := by
  have hsorts : Record.StablySorts (Record.exactCompare orders) (t.matching filter)
      (Record.sortedBy orders (t.matching filter)) :=
    Record.stablySorts_sortedBy fun a ha b hb => Record.compareBy_eq (hexact a ha) (hexact b hb)
  refine ⟨⟨_, hsorts⟩, fun sorted h => ?_⟩
  rw [h.unique hsorts]
  exact shows_sortedBy ht

/-- Null stands before truth values, these before numbers, and these before texts. -/
example : Record.sortedBy [⟨"x", .asc⟩] [[("x", .text "")], [("x", .int (-1))], [("x", .bool true)], []] =
    [[], [("x", .bool true)], [("x", .int (-1))], [("x", .text "")]] := rfl

end Store

namespace Sample

/-- The links of books by the numbers of the books, the last book first. -/
def byBook : List Order :=
  [⟨"book_id", .desc⟩]

/-- The two links of the first book stand behind that of the third one, as they are stored. They are selected together,
since they are selected one after the other. -/
theorem links_of_first_book :
    library.store.tables.get? "book_tags" = some bookTags ∧
      Record.AllExact byBook (bookTags.rows.filter fun row => row.passes []) ∧
      (∃ sorted,
        Record.StablySorts (Record.exactCompare byBook) (bookTags.rows.filter fun row => row.passes []) sorted ∧
          library.store.Shows "book_tags" bookTags [] byBook sorted) ∧
      library.store.select "book_tags" ⟨["id", "book_id"], [], byBook, some 2, some 1⟩ =
        .ok [[("id", .int 1), ("book_id", .int 1)], [("id", .int 3), ("book_id", .int 1)]] := by
  have ht : library.store.tables.get? "book_tags" = some bookTags := rfl
  have hexact : Record.AllExact byBook (bookTags.rows.filter fun row => row.passes []) := by
    unfold Record.AllExact
    decide
  obtain ⟨⟨sorted, hsorted⟩, hshows⟩ := Store.sorted_segments_selected ht hexact
  exact ⟨ht, hexact, ⟨sorted, hsorted, hshows sorted hsorted⟩,
    (hshows sorted hsorted).append ["id", "book_id"] 1 1 1 2 2 _ _ rfl rfl rfl rfl⟩

end Sample

end DataModel

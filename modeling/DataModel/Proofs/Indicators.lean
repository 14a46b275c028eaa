import DataModel.Proofs.Paging
import Mathlib.Algebra.Group.Int.Defs

/-!
# Indicators of pages are exact

What a page says of the pages around it is computed in words of 64 bits: by a product that is held within the word, a
quotient that is rounded up, and a number that is given up when it is no signed word. It comes out as in unbounded
numbers, also where a product or a number does not fit. The window of a page is read when it starts before the last row
and not otherwise, and where it starts is never a product that has wrapped.
-/

namespace DataModel

namespace Page

/-- What a page of a number and a size has to say of a total, in unbounded numbers: the number of pages is the least one
with room for all rows; the page after it is told when rows follow and its number is a signed word; and the page before
it is told when there is one, with the largest signed word for a number that is none. -/
structure Indicates (p : Page) (total number size : Nat) : Prop where
  counted : p.total.toNat = total
  numbered : p.page.toNat = number
  sized : p.pageSize.toNat = size
  room : total ≤ p.pages.toNat * size
  least : ∀ pages, total ≤ pages * size → p.pages.toNat ≤ pages
  more : number * size < total ↔ number < p.pages.toNat
  next : p.next.toInt = if number * size < total ∧ number + 1 < 2 ^ 63 then (number : Int) + 1 else -1
  prev : p.prev.toInt = if number = 1 then -1 else if number ≤ 2 ^ 63 then (number : Int) - 1 else 2 ^ 63 - 1

/-- How many rows stand before the page of a number, for pages of a size. -/
def start (number size : Nat) : Nat :=
  (number - 1) * size

theorem toInt_nextOf (total page size : UInt64) :
    (nextOf total page size).toInt =
      if page.toNat * size.toNat < total.toNat ∧ page.toNat + 1 < 2 ^ 63 then (page.toNat : Int) + 1 else -1 := by
  unfold nextOf
  simp only [saturatingMul_lt_iff, twoTo_eq]
  split
  next h => exact Int64.toInt_ofNat_of_lt h.2
  next => rfl

theorem toInt_prevOf {page : UInt64} (hpage : 1 ≤ page.toNat) :
    (prevOf page).toInt =
      if page.toNat = 1 then -1 else if page.toNat ≤ 2 ^ 63 then (page.toNat : Int) - 1 else 2 ^ 63 - 1 := by
  unfold prevOf
  by_cases hfirst : page.toNat = 1
  · have hnot : ¬ 1 < page := by
      rw [UInt64.lt_iff_toNat_lt, hfirst]
      decide
    rw [if_neg hnot, if_pos hfirst]
    rfl
  · have hlater : 1 < page := by
      rw [UInt64.lt_iff_toNat_lt]
      exact Nat.lt_of_le_of_ne hpage (Ne.symm hfirst)
    have hheld : min (page.toNat - 1) (twoTo 63 - 1) < 2 ^ 63 := by
      rw [twoTo_eq]
      omega
    rw [if_pos hlater, if_neg hfirst, Int64.toInt_ofNat_of_lt hheld, twoTo_eq]
    split <;> omega

/-- A page says what it has to, for every total, number and size. -/
theorem indicates_of {page size : UInt64} (total : UInt64) (hpage : 1 ≤ page.toNat) (hsize : 1 ≤ size.toNat)
    (data : List Record) : (Page.of total page size data).Indicates total.toNat page.toNat size.toNat := by
  have hmax : max size 1 = size := UInt64.toNat_inj.1 (by rw [toNat_max_one]; omega)
  have hpages : ∀ n, n < (Page.of total page size data).pages.toNat ↔ n * size.toNat < total.toNat := by
    intro n
    rw [Page.of, hmax]
    exact lt_ceilingDiv_iff hsize n
  exact
    { counted := rfl
      numbered := rfl
      sized := rfl
      room := Nat.not_lt.1 (mt (hpages _).2 (Nat.lt_irrefl _))
      least := fun pages hroom => Nat.not_lt.1 (mt (hpages pages).1 (Nat.not_lt.2 hroom))
      more := (hpages page.toNat).symm
      next := toInt_nextOf total page size
      prev := toInt_prevOf hpage }

theorem toNat_sizeFor (size : UInt64) : (sizeFor size).toNat = if size.toNat = 0 then 15 else size.toNat := by
  unfold sizeFor
  by_cases hzero : size = 0
  · rw [if_pos hzero, hzero]
    rfl
  · have hpos : size.toNat ≠ 0 := fun hn => hzero (UInt64.toNat_inj.1 hn)
    rw [if_neg hzero, if_neg hpos]

end Page

namespace Library

variable {l : Library} {m : Model} {q : Descriptor}

/-- The window of a page is read when the page starts before the last row, and then from where the page starts. -/
theorem pageRows_eq_ite (l : Library) (m : Model) (q : Descriptor) (total : UInt64) {page : UInt64}
    (hpage : 1 ≤ page.toNat) (size : UInt64) :
    ∃ offset : UInt64, (Page.start page.toNat size.toNat < total.toNat →
        offset.toNat = Page.start page.toNat size.toNat) ∧
      l.pageRows m q total page size =
        if Page.start page.toNat size.toNat < total.toNat then
          l.run m { q with limit := some size, offset := some offset } else .ok [] := by
  rcases l.pageRows_cases m q total hpage size with ⟨hbehind, hnone⟩ | ⟨offset, hstart, hinside, hread⟩
  · have hnot : ¬ Page.start page.toNat size.toNat < total.toNat := Nat.not_lt.2 hbehind
    exact ⟨0, fun hlt => absurd hlt hnot, by rw [hnone, if_neg hnot]⟩
  · refine ⟨offset, fun _ => hstart, ?_⟩
    rw [hread, if_pos (by rw [Page.start, ← hstart]; exact hinside)]
    rfl

/-- A page is made of the number of rows and of the window of the page, if that is read. -/
theorem paginate_eq_map {n : Nat} (hcount : l.count m q = .ok n) (hword : n < 2 ^ 64) (page size : UInt64) :
    ∃ limit offset : UInt64, limit.toNat = (Page.sizeFor size).toNat ∧
      (Page.start (max page.toNat 1) limit.toNat < n → offset.toNat = Page.start (max page.toNat 1) limit.toNat) ∧
      l.paginate m q page size =
        (if Page.start (max page.toNat 1) limit.toNat < n then
          l.run m { q with limit := some limit, offset := some offset } else .ok []).map
          (Page.of (UInt64.ofNat n) (max page 1) limit) := by
  have hnumber : 1 ≤ (max page 1).toNat := by
    rw [toNat_max_one]
    exact Nat.le_max_right _ _
  obtain ⟨offset, hoffset, hrows⟩ := l.pageRows_eq_ite m q (UInt64.ofNat n) hnumber (Page.sizeFor size)
  rw [toNat_max_one, UInt64.toNat_ofNat_of_lt' hword] at hoffset hrows
  refine ⟨Page.sizeFor size, offset, rfl, hoffset, ?_⟩
  have hpage : l.paginate m q page size =
      (l.pageRows m q (UInt64.ofNat n) (max page 1) (Page.sizeFor size) >>= fun rows =>
        .ok (.of (UInt64.ofNat n) (max page 1) (Page.sizeFor size) rows)) := by
    rw [paginate, hcount]
    rfl
  rw [hpage, hrows]
  split
  · cases l.run m { q with limit := some (Page.sizeFor size), offset := some offset } <;> rfl
  · rfl

/-- The indicators of a page are those of unbounded numbers, for all words. A page that is asked for is the first one
when its number is zero, and has fifteen rows when its size is zero. Its rows are counted, and its window is read
exactly when it starts before the last of them; it starts at the exact product, and what is told is exact. -/
theorem page_indicators_exact (l : Library) (m : Model) (q : Descriptor) :
    (∀ (total page size : UInt64) (data : List Record), 1 ≤ page.toNat → 1 ≤ size.toNat →
      (Page.of total page size data).Indicates total.toNat page.toNat size.toNat) ∧
    ∀ page size : UInt64, (∀ e, l.count m q = .error e → l.paginate m q page size = .error e) ∧
      ∀ n, n < 2 ^ 64 → l.count m q = .ok n →
        ∃ limit offset : UInt64, limit.toNat = (if size.toNat = 0 then 15 else size.toNat) ∧
          (Page.start (max page.toNat 1) limit.toNat < n → offset.toNat = Page.start (max page.toNat 1) limit.toNat) ∧
          l.paginate m q page size =
            (if Page.start (max page.toNat 1) limit.toNat < n then
              l.run m { q with limit := some limit, offset := some offset } else .ok []).map
              (Page.of (UInt64.ofNat n) (max page 1) limit) ∧
          ∀ p, l.paginate m q page size = .ok p → p.Indicates n (max page.toNat 1) limit.toNat := by
  refine ⟨fun total page size data hpage hsize => Page.indicates_of total hpage hsize data, fun page size =>
    ⟨fun e he => bind_eq_error_iff.2 (Or.inl he), fun n hword hcount => ?_⟩⟩
  obtain ⟨limit, offset, hlimit, hoffset, hpage⟩ := paginate_eq_map hcount hword page size
  refine ⟨limit, offset, hlimit.trans (Page.toNat_sizeFor size), hoffset, hpage, fun p hp => ?_⟩
  have hnumber : 1 ≤ (max page 1).toNat := by
    rw [toNat_max_one]
    exact Nat.le_max_right _ _
  obtain ⟨rows, rfl⟩ : ∃ rows, p = Page.of (UInt64.ofNat n) (max page 1) limit rows := by
    rw [hpage] at hp
    generalize (if Page.start (max page.toNat 1) limit.toNat < n then _ else _ : Except ModelError (List Record)) = rows
      at hp
    cases rows with
    | error e => cases hp
    | ok rows => exact ⟨rows, (ok_eq_ok_iff.1 hp)⟩
  have hsays := Page.indicates_of (UInt64.ofNat n) hnumber (hlimit ▸ Page.sizeFor_pos size) rows
  rwa [UInt64.toNat_ofNat_of_lt' hword, toNat_max_one] at hsays

end Library

namespace Sample

/-- The last number of a page that is a signed word has no page after it that is told, a page with the largest number is
told the largest signed word before it, and the second page of one row of the authors starts at their second row. -/
theorem far_pages_exact :
    (Page.of 0xffffffffffffffff 0x7fffffffffffffff 1 []).next.toInt = -1 ∧
      (Page.of 3 0xffffffffffffffff 15 []).prev.toInt = 2 ^ 63 - 1 ∧
      (∃ p, library.paginate author lastName 2 1 = .ok p ∧ p.Indicates 2 2 1) ∧
      ∃ p, library.paginate author lastName 0xffffffffffffffff 0 = .ok p ∧ p.data = [] ∧
        p.Indicates 2 0xffffffffffffffff 15 := by
  obtain ⟨hof, hpaginate⟩ := Library.page_indicators_exact library author lastName
  have hlast := hof 0xffffffffffffffff 0x7fffffffffffffff 1 [] (by decide) (by decide)
  have hfar := hof 3 0xffffffffffffffff 15 [] (by decide) (by decide)
  have hcount : library.count author lastName = .ok 2 := rfl
  refine ⟨hlast.next, hfar.prev, ?_, ?_⟩
  · obtain ⟨limit, offset, hlimit, -, -, hsays⟩ := (hpaginate 2 1).2 2 (by decide) hcount
    obtain ⟨p, hp⟩ : ∃ p, library.paginate author lastName 2 1 = .ok p := ⟨_, rfl⟩
    have hsized := hsays p hp
    rw [hlimit] at hsized
    exact ⟨p, hp, hsized⟩
  · obtain ⟨limit, offset, hlimit, -, hpage, hsays⟩ := (hpaginate 0xffffffffffffffff 0).2 2 (by decide) hcount
    have hbehind : ¬ Page.start (max (0xffffffffffffffff : UInt64).toNat 1) limit.toNat < 2 := by
      rw [hlimit]
      decide
    rw [if_neg hbehind] at hpage
    have hsized := hsays _ hpage
    rw [hlimit] at hsized
    exact ⟨_, hpage, by simp only [Page.of], hsized⟩

end Sample

end DataModel

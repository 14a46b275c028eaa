import DataModel.Proofs.Rounding
import DataModel.Proofs.Selection

/-!
# Where comparing rows is consistent

Two integers are compared exactly, and an integer with another number after rounding. So cells are compared by
what they are rounded to, and integers that are rounded to the same number once more by themselves. Seen from
any two rows this is the same, but three rows may be at odds: two integers that differ are both equal to the
number that they are rounded to. This is the only way (`Record.BlurredIn`), and it takes an integer beyond the
fifty-third power of two.
-/

namespace DataModel

namespace Binary64

theorem order_eq_some {x y : Binary64} (hx : x.isNaN = false) (hy : y.isNaN = false) :
    x.order y = some (compare x.signedUnits y.signedUnits) := by
  rw [order, hx, hy]
  rfl

theorem signedUnits_eq_of_order {x y : Binary64} (h : x.order y = some .eq) : x.signedUnits = y.signedUnits := by
  unfold order at h
  split at h
  · cases h
  · exact Int.compare_eq_eq.1 (Option.some.inj h)

theorem order_swap (x y : Binary64) : y.order x = (x.order y).map Ordering.swap := by
  unfold order
  rw [Bool.or_comm]
  split
  · rfl
  · exact congrArg some Std.OrientedCmp.eq_swap

end Binary64

namespace Value

/-- Whether a value is not a number, though of the kind of numbers. -/
def isNaN : Value → Bool
  | float x => x.isNaN
  | _ => false

/-- A number after rounding in steps, as a component to compare by. -/
def level : Value → Int
  | int n => (Binary64.ofInt n.toInt).signedUnits
  | float x => x.signedUnits
  | _ => 0

/-- Values by rank, and within a rank by what they hold after rounding. Lists and maps do not differ. -/
def roundedOrder : Value → Value → Ordering :=
  compareLex (compareOn rank) (compareLex (compareOn truth) (compareLex (compareOn level) (compareOn words)))

instance : Std.TransCmp roundedOrder :=
  inferInstanceAs (Std.TransCmp (compareLex _ (compareLex _ (compareLex _ _))))

/-- Integers as they are. Nothing else differs here. -/
def wholeOrder : Value → Value → Ordering
  | int m, int n => compare m.toInt n.toInt
  | _, _ => .eq

theorem natAbs_toInt_le (n : Int64) : n.toInt.natAbs ≤ twoTo 63 := by
  have hlow := n.le_toInt
  have hhigh := n.toInt_lt
  have hbound : twoTo 63 = 9223372036854775808 := rfl
  omega

theorem isNaN_ofInt (n : Int64) : (Binary64.ofInt n.toInt).isNaN = false :=
  Binary64.isNaN_ofInt (natAbs_toInt_le n)

/-- Two integers are compared after rounding and then as they are, since rounding keeps their order. -/
theorem compare_level_then (m n : Int64) :
    (compare (level (int m)) (level (int n))).then (compare m.toInt n.toInt) = compare m.toInt n.toInt := by
  have hlevel : ∀ {m n : Int64}, m.toInt ≤ n.toInt → level (int m) ≤ level (int n) := fun {m n} =>
    Binary64.signedUnits_ofInt_mono (natAbs_toInt_le m) (natAbs_toInt_le n)
  cases hc : compare (level (int m)) (level (int n)) with
  | eq => rfl
  | lt =>
    rw [Int.compare_eq_lt] at hc
    refine (Int.compare_eq_lt.2 (Int.not_le.1 fun hle => ?_)).symm
    exact absurd (hlevel hle) (Int.not_le.2 hc)
  | gt =>
    rw [Int.compare_eq_gt] at hc
    refine (Int.compare_eq_gt.2 (Int.not_le.1 fun hle => ?_)).symm
    exact absurd (hlevel hle) (Int.not_le.2 hc)

theorem order_of_rank_ne {a b : Value} (h : a.rank ≠ b.rank) : a.order b = some (compare a.rank b.rank) := by
  cases a <;> cases b <;> first | exact absurd rfl h | rfl

theorem roundedOrder_of_rank_ne {a b : Value} (h : a.rank ≠ b.rank) : roundedOrder a b = compare a.rank b.rank := by
  have hne : compare a.rank b.rank ≠ .eq := mt Nat.compare_eq_eq.1 h
  rw [roundedOrder, compareLex, compareOn]
  cases hc : compare a.rank b.rank with
  | eq => exact absurd hc hne
  | lt => rfl
  | gt => rfl

theorem number_cases {v : Value} (h : v.rank = 2) : (∃ n, v = int n) ∨ ∃ x, v = float x := by
  cases v <;> first | exact Or.inl ⟨_, rfl⟩ | exact Or.inr ⟨_, rfl⟩ | cases h

/-- Numbers are compared after rounding by what they are rounded to only. -/
theorem roundedOrder_of_number {a b : Value} (ha : a.rank = 2) (hb : b.rank = 2) :
    roundedOrder a b = compare (level a) (level b) := by
  have hrest : ∀ {v : Value}, v.rank = 2 → v.truth = false ∧ v.words = "" := by
    intro v hv
    rcases number_cases hv with ⟨n, rfl⟩ | ⟨x, rfl⟩
    · exact ⟨rfl, rfl⟩
    · exact ⟨rfl, rfl⟩
  obtain ⟨hta, hwa⟩ := hrest ha
  obtain ⟨htb, hwb⟩ := hrest hb
  simp only [roundedOrder, compareLex, compareOn, ha, hb, hta, htb, hwa, hwb, Std.ReflCmp.compare_self,
    Ordering.then_eq]
  rfl

/-- Numbers are compared by what they are rounded to, unless both are integers. -/
theorem order_of_number {a b : Value} (ha : a.rank = 2) (hb : b.rank = 2) (hna : a.isNaN = false)
    (hnb : b.isNaN = false) :
    (a.order b).getD .eq = (compare (level a) (level b)).then (wholeOrder a b) := by
  rcases number_cases ha with ⟨m, rfl⟩ | ⟨x, rfl⟩ <;> rcases number_cases hb with ⟨n, rfl⟩ | ⟨y, rfl⟩
  · rw [order, Option.getD_some, wholeOrder, compare_level_then]
  · have hwhole : wholeOrder (int m) (float y) = .eq := rfl
    rw [order, Binary64.order_eq_some (isNaN_ofInt m) hnb, hwhole, Ordering.then_eq, Option.getD_some]
    rfl
  · have hwhole : wholeOrder (float x) (int n) = .eq := rfl
    rw [order, Binary64.order_eq_some hna (isNaN_ofInt n), hwhole, Ordering.then_eq, Option.getD_some]
    rfl
  · have hwhole : wholeOrder (float x) (float y) = .eq := rfl
    rw [order, Binary64.order_eq_some hna hnb, hwhole, Ordering.then_eq, Option.getD_some]
    rfl

/-- What is no number is not changed by rounding. -/
theorem order_eq_roundedOrder : ∀ {a b : Value}, a.rank = b.rank → a.rank ≠ 2 → (a.order b).getD .eq = roundedOrder a b
  | null, null, _, _ | list _, list _, _, _ | map _, map _, _, _ => rfl
  | bool b, bool c, _, _ => by cases b <;> cases c <;> rfl
  | text s, text t, _, _ => by
    simp only [order, Option.getD_some, roundedOrder, compareLex, compareOn, rank, truth, level, words,
      Std.ReflCmp.compare_self]
    rfl
  | int _, _, _, h | float _, _, _, h => absurd rfl h

theorem wholeOrder_eq {a b : Value} (h : a.rank = b.rank → a.rank ≠ 2) : wholeOrder a b = .eq := by
  unfold wholeOrder
  split
  next => exact absurd rfl (h rfl)
  next => rfl

/-- Cells are compared after rounding, and integers once more as they are. -/
theorem order_getD_eq_then {a b : Value} (ha : a.isNaN = false) (hb : b.isNaN = false) :
    (a.order b).getD .eq = (roundedOrder a b).then (wholeOrder a b) := by
  by_cases hrank : a.rank = b.rank
  · by_cases hnumber : a.rank = 2
    · rw [roundedOrder_of_number hnumber (hrank ▸ hnumber), order_of_number hnumber (hrank ▸ hnumber) ha hb]
    · rw [order_eq_roundedOrder hrank hnumber, wholeOrder_eq fun _ => hnumber, Ordering.then_eq]
  · rw [order_of_rank_ne hrank, roundedOrder_of_rank_ne hrank, wholeOrder_eq fun heq => absurd heq hrank,
      Ordering.then_eq, Option.getD_some]

theorem order_swap_of_rank_eq : ∀ {a b : Value}, a.rank = b.rank → b.order a = (a.order b).map Ordering.swap
  | null, null, _ | list _, list _, _ | map _, map _, _ => rfl
  | bool _, bool _, _ | int _, int _, _ | text _, text _, _ => congrArg some Std.OrientedCmp.eq_swap
  | int _, float _, _ | float _, int _, _ | float _, float _, _ => Binary64.order_swap _ _

/-- Any two cells compare the other way round when they are swapped. -/
theorem order_swap (a b : Value) : b.order a = (a.order b).map Ordering.swap := by
  by_cases hrank : a.rank = b.rank
  · exact order_swap_of_rank_eq hrank
  · rw [order_of_rank_ne hrank, order_of_rank_ne (Ne.symm hrank)]
    exact congrArg some Std.OrientedCmp.eq_swap

theorem order_getD_swap (a b : Value) : (b.order a).getD .eq = ((a.order b).getD .eq).swap := by
  rw [order_swap]
  cases a.order b <;> rfl

/-- Whether two integers that differ are rounded to the number between them. -/
def Blurs : Value → Value → Value → Prop
  | int m, float x, int n =>
    m ≠ n ∧ (Binary64.ofInt m.toInt).order x = some .eq ∧ (Binary64.ofInt n.toInt).order x = some .eq
  | _, _, _ => False

theorem blurs_cases {a b c : Value} (h : Blurs a b c) : ∃ m x n, a = int m ∧ b = float x ∧ c = int n ∧ m ≠ n ∧
    (Binary64.ofInt m.toInt).order x = some .eq ∧ (Binary64.ofInt n.toInt).order x = some .eq := by
  unfold Blurs at h
  split at h
  next m x n => exact ⟨m, x, n, rfl, rfl, rfl, h⟩
  next => exact h.elim

/-- Both integers are equal to the number between them, and they are not equal to each other. -/
theorem Blurs.order_eq {a b c : Value} (h : Blurs a b c) :
    a.order b = some .eq ∧ b.order c = some .eq ∧ a.order c ≠ some .eq := by
  obtain ⟨m, x, n, rfl, rfl, rfl, hne, hm, hn⟩ := blurs_cases h
  refine ⟨hm, ?_, fun heq => hne ?_⟩
  · rw [order_swap, order, hn]
    rfl
  · exact Int64.toInt_inj.1 (Int.compare_eq_eq.1 (Option.some.inj heq))

/-- Integers up to the fifty-third power of two are not rounded to the same number. -/
theorem not_blurs_of_small {a b c : Value} (ha : ∀ n, a = int n → n.toInt.natAbs ≤ twoTo 53)
    (hc : ∀ n, c = int n → n.toInt.natAbs ≤ twoTo 53) : ¬Blurs a b c := by
  intro h
  obtain ⟨m, x, n, rfl, rfl, rfl, hne, hm, hn⟩ := blurs_cases h
  have hsame := (Binary64.signedUnits_eq_of_order hm).trans (Binary64.signedUnits_eq_of_order hn).symm
  rw [Binary64.signedUnits_ofInt_eq (ha m rfl), Binary64.signedUnits_ofInt_eq (hc n rfl)] at hsame
  have hone : (Binary64.one : Int) ≠ 0 := Int.ofNat_ne_zero.2 (Nat.ne_of_gt (twoTo_pos 1074))
  exact hne (Int64.toInt_inj.1 (Int.eq_of_mul_eq_mul_right hone hsame))

theorem rank_eq_of_roundedOrder {a b : Value} (h : roundedOrder a b = .eq) : a.rank = b.rank := by
  by_contra hrank
  rw [roundedOrder_of_rank_ne hrank] at h
  exact hrank (Nat.compare_eq_eq.1 h)

/-- Integers that do not differ after rounding are at odds with a cell between them only if it blurs them. -/
theorem wholeOrder_isLE_of_not_blurs {a b c : Value} (hb : b.isNaN = false) (h : ¬Blurs a b c)
    (hab : roundedOrder a b = .eq) (hbc : roundedOrder b c = .eq) (hle : (wholeOrder a b).isLE = true)
    (hle' : (wholeOrder b c).isLE = true) : (wholeOrder a c).isLE = true := by
  unfold wholeOrder
  split
  next m n =>
    have hrank : b.rank = 2 := (rank_eq_of_roundedOrder hab).symm
    rcases number_cases hrank with ⟨k, rfl⟩ | ⟨x, rfl⟩
    · exact Std.TransCmp.isLE_trans hle hle'
    · by_contra hgt
      refine h ⟨fun hmn => hgt ?_, ?_, ?_⟩
      · have hself : compare n.toInt n.toInt = .eq := Std.ReflCmp.compare_self
        rw [hmn, hself]
        rfl
      · rw [roundedOrder_of_number rfl rfl] at hab
        rw [Binary64.order_eq_some (isNaN_ofInt m) hb]
        exact congrArg some hab
      · rw [roundedOrder_of_number rfl rfl] at hbc
        rw [Binary64.order_eq_some (isNaN_ofInt n) hb]
        exact congrArg some (Std.OrientedCmp.eq_symm hbc)
  next => rfl

/-- Three cells are not at odds, unless the outer ones are integers that are rounded to the middle one. -/
theorem isLE_trans_of_not_blurs {a b c : Value} (ha : a.isNaN = false) (hb : b.isNaN = false) (hc : c.isNaN = false)
    (h : ¬Blurs a b c) (hab : ((a.order b).getD .eq).isLE = true) (hbc : ((b.order c).getD .eq).isLE = true) :
    ((a.order c).getD .eq).isLE = true := by
  rw [order_getD_eq_then ha hb, Ordering.isLE_then_iff_and] at hab
  rw [order_getD_eq_then hb hc, Ordering.isLE_then_iff_and] at hbc
  rw [order_getD_eq_then ha hc, Ordering.isLE_then_iff_and]
  refine ⟨Std.TransCmp.isLE_trans hab.1 hbc.1, ?_⟩
  rcases Ordering.isLE_iff_eq_lt_or_eq_eq.1 hab.1 with hlt | heq
  · exact Or.inl (Std.TransCmp.lt_of_lt_of_isLE hlt hbc.1)
  rcases Ordering.isLE_iff_eq_lt_or_eq_eq.1 hbc.1 with hlt | heq'
  · exact Or.inl (Std.TransCmp.lt_of_isLE_of_lt hab.1 hlt)
  -- rounding tells none of the three apart
  rw [heq] at hab
  rw [heq'] at hbc
  exact Or.inr (wholeOrder_isLE_of_not_blurs hb h heq heq' (hab.2.resolve_left nofun) (hbc.2.resolve_left nofun))

end Value

namespace Record

variable {orders : List Order} {rows : List Record}

/-- Whether a number under a column is what two integers under it are rounded to. -/
def BlurredIn (column : String) (rows : List Record) : Prop :=
  ∃ a ∈ rows, ∃ b ∈ rows, ∃ c ∈ rows, Value.Blurs (cell a column) (cell b column) (cell c column)

/-- Whether rows are compared as a total preorder compares them: the other way round when they are swapped, and
transitively, also where they are equal. -/
structure Consistent (cmp : Record → Record → Ordering) (rows : List Record) : Prop where
  /-- Two rows compare the other way round when they are swapped. -/
  swap : ∀ a ∈ rows, ∀ b ∈ rows, cmp b a = (cmp a b).swap
  /-- A row that is not greater than one that is not greater than a third is not greater than that. -/
  isLE_trans : ∀ a ∈ rows, ∀ b ∈ rows, ∀ c ∈ rows,
    (cmp a b).isLE = true → (cmp b c).isLE = true → (cmp a c).isLE = true
  /-- Rows that are equal to the same one are equal. -/
  eq_trans : ∀ a ∈ rows, ∀ b ∈ rows, ∀ c ∈ rows, cmp a b = .eq → cmp b c = .eq → cmp a c = .eq

/-- Rows whose integers rounding leaves alone are not blurred. -/
theorem not_blurredIn_of_small {column : String}
    (h : ∀ row ∈ rows, ∀ n, cell row column = .int n → n.toInt.natAbs ≤ twoTo 53) : ¬BlurredIn column rows := by
  rintro ⟨a, ha, b, -, c, hc, hblurs⟩
  exact Value.not_blurs_of_small (h a ha) (h c hc) hblurs

/-- Any two rows compare the other way round when they are swapped. -/
theorem compareBy_swap (orders : List Order) (a b : Record) : compareBy orders b a = (compareBy orders a b).swap := by
  induction orders with
  | nil => rfl
  | cons o orders ih =>
    rw [compareBy_cons, compareBy_cons, ih, Value.order_getD_swap, Ordering.swap_then]
    cases o.direction <;> rfl

theorem compareBy_singleton (column : String) (a b : Record) :
    compareBy [⟨column, .asc⟩] a b = ((cell a column).order (cell b column)).getD .eq := by
  rw [compareBy_cons, compareBy, Ordering.then_eq]
  rfl

/-- The cells under a column are compared by a total preorder, unless two of them are blurred by a third. -/
theorem transCmp_cell {column : String} (hnumbers : ∀ row ∈ rows, (cell row column).isNaN = false)
    (h : ¬BlurredIn column rows) :
    Std.TransCmp fun a b : {row // row ∈ rows} => ((cell a.1 column).order (cell b.1 column)).getD .eq where
  eq_swap := Value.order_getD_swap _ _
  isLE_trans {a b c} := Value.isLE_trans_of_not_blurs (hnumbers a a.2) (hnumbers b b.2) (hnumbers c c.2)
    fun hblurs => h ⟨a, a.2, b, b.2, c, c.2, hblurs⟩

/-- Rows are compared by a total preorder when their cells are. -/
theorem transCmp_compareBy (h : ∀ o ∈ orders,
      Std.TransCmp fun a b : {row // row ∈ rows} => ((cell a.1 o.column).order (cell b.1 o.column)).getD .eq) :
    Std.TransCmp fun a b : {row // row ∈ rows} => compareBy orders a.1 b.1 := by
  induction orders with
  | nil => exact { eq_swap := rfl, isLE_trans := fun _ _ => rfl }
  | cons o orders ih =>
    rw [List.forall_mem_cons] at h
    have hcell := h.1
    have hfirst := transCmp_apply
      (fun a b : {row // row ∈ rows} => ((cell a.1 o.column).order (cell b.1 o.column)).getD .eq) o.direction
    have hrest := ih h.2
    have hsame : (fun a b : {row // row ∈ rows} => compareBy (o :: orders) a.1 b.1) =
        compareLex (fun a b => o.direction.apply (((cell a.1 o.column).order (cell b.1 o.column)).getD .eq))
          fun a b => compareBy orders a.1 b.1 := by
      funext a b
      exact compareBy_cons o orders a.1 b.1
    rw [hsame]
    infer_instance

/-- A total preorder of some rows is that of all rows where each other one is taken for one of them. -/
theorem ranked_of_transCmp (h : Std.TransCmp fun a b : {row // row ∈ rows} => compareBy orders a.1 b.1) :
    Ranked orders rows := by
  by_cases hnil : rows = []
  · subst hnil
    exact ⟨exactCompare orders, inferInstance, nofun⟩
  obtain ⟨among, hamong⟩ : ∃ among : Record → {row // row ∈ rows},
      ∀ row (hrow : row ∈ rows), among row = ⟨row, hrow⟩ := by
    classical
    obtain ⟨first, hfirst⟩ := List.exists_mem_of_ne_nil rows hnil
    exact ⟨fun row => if hrow : row ∈ rows then ⟨row, hrow⟩ else ⟨first, hfirst⟩, fun row hrow => dif_pos hrow⟩
  refine ⟨_, transCmp_comap (fun a b : {row // row ∈ rows} => compareBy orders a.1 b.1) among, fun a ha b hb => ?_⟩
  rw [hamong a ha, hamong b hb]

theorem Ranked.consistent (h : Ranked orders rows) : Consistent (compareBy orders) rows := by
  obtain ⟨cmp, _, hcmp⟩ := h
  refine ⟨fun a _ b _ => compareBy_swap orders a b, fun a ha b hb c hc => ?_, fun a ha b hb c hc => ?_⟩
  · rw [hcmp a ha b hb, hcmp b hb c hc, hcmp a ha c hc]
    exact Std.TransCmp.isLE_trans
  · rw [hcmp a ha b hb, hcmp b hb c hc, hcmp a ha c hc]
    exact Std.TransCmp.eq_trans

theorem ranked_of_not_blurred (hnumbers : ∀ row ∈ rows, ∀ o ∈ orders, (cell row o.column).isNaN = false)
    (h : ∀ o ∈ orders, ¬BlurredIn o.column rows) : Ranked orders rows :=
  ranked_of_transCmp (transCmp_compareBy fun o ho => transCmp_cell (fun row hrow => hnumbers row hrow o ho) (h o ho))

/-- The rows that are put in order as a total preorder has them. -/
theorem Ranked.stablySorts (h : Ranked orders rows) : StablySorts (compareBy orders) rows (sortedBy orders rows) := by
  obtain ⟨cmp, _, hcmp⟩ := h
  exact (stablySorts_sortedBy hcmp).congr hcmp

/-- Any two rows compare the other way round when they are swapped. The orders over some columns compare rows as total
preorders exactly when under none of the columns a number is what two integers that differ are rounded to, and then
sorting makes what is asked for. -/
theorem consistent_iff_not_blurred {columns : List String}
    (hnumbers : ∀ row ∈ rows, ∀ c ∈ columns, (cell row c).isNaN = false) :
    (∀ orders a b, compareBy orders b a = (compareBy orders a b).swap) ∧
      ((∀ orders : List Order, (∀ o ∈ orders, o.column ∈ columns) → Consistent (compareBy orders) rows) ↔
        ∀ c ∈ columns, ¬BlurredIn c rows) ∧
      ((∀ c ∈ columns, ¬BlurredIn c rows) → ∀ orders : List Order, (∀ o ∈ orders, o.column ∈ columns) →
        StablySorts (compareBy orders) rows (sortedBy orders rows)) := by
  have hranked : (∀ c ∈ columns, ¬BlurredIn c rows) → ∀ orders : List Order, (∀ o ∈ orders, o.column ∈ columns) →
      Ranked orders rows := fun h orders ho =>
    ranked_of_not_blurred (fun row hrow o hmem => hnumbers row hrow _ (ho o hmem)) fun o hmem => h _ (ho o hmem)
  refine ⟨compareBy_swap, ⟨fun h c hc => ?_, fun h orders ho => (hranked h orders ho).consistent⟩,
    fun h orders ho => (hranked h orders ho).stablySorts⟩
  rintro ⟨first, hfirst, between, hbetween, last, hlast, hblurs⟩
  obtain ⟨heq, heq', hne⟩ := hblurs.order_eq
  -- the order by the blurred column alone is at odds with itself
  have htrans := (h [⟨c, .asc⟩] (by simpa using hc)).eq_trans first hfirst between hbetween last hlast
  rw [compareBy_singleton, compareBy_singleton, compareBy_singleton, heq, heq'] at htrans
  obtain ⟨m, x, n, hm, -, hn, -⟩ := Value.blurs_cases hblurs
  rw [hm, hn] at htrans hne
  exact hne (congrArg some (htrans rfl rfl))

end Record

namespace Sample

/-- Cells of every kind, with integers and other numbers among each other. -/
def measures : List Record :=
  [[("n", .int 2)], [("n", .float ⟨0x3ff8000000000000⟩)], [("n", .text "many")], [("n", .list [.int 1])], [],
    [("n", .int 9007199254740992)], [("n", .bool true)], [("n", .float ⟨0x4340000000000000⟩)], [("n", .map [])]]

/-- Cells of every kind are compared consistently as long as no integer is too large. -/
theorem measures_consistent :
    (∀ row ∈ measures, ∀ c ∈ ["n"], (row.cell c).isNaN = false) ∧
      ∀ orders : List Order, (∀ o ∈ orders, o.column ∈ ["n"]) →
        Record.Consistent (Record.compareBy orders) measures := by
  have hnumbers : ∀ row ∈ measures, ∀ c ∈ ["n"], (row.cell c).isNaN = false := by decide
  have hsmall : ∀ c ∈ ["n"], ¬Record.BlurredIn c measures := by
    intro c hc
    obtain rfl := List.mem_singleton.1 hc
    refine Record.not_blurredIn_of_small fun row hrow n hn => ?_
    have hall : ∀ row ∈ measures, ∀ n, row.cell "n" = .int n → n = 2 ∨ n = 9007199254740992 := by
      simp [measures, Record.cell, Assoc.get?]
    rcases hall row hrow n hn with rfl | rfl <;> decide
  exact ⟨hnumbers, (Record.consistent_iff_not_blurred hnumbers).2.1.2 hsmall⟩

/-- Two integers, with the number between them that both are rounded to. -/
def largeMeasures : List Record :=
  [[("id", .int 1), ("n", .int 9007199254740993)], [("id", .int 2), ("n", .float ⟨0x4340000000000000⟩)],
    [("id", .int 3), ("n", .int 9007199254740992)]]

/-- The first integer is equal to the number and the number to the last integer, which is less than the first one. So
they stay in their places when they are sorted, and these are not in order. -/
theorem large_measures_stay_unsorted :
    (∀ row ∈ largeMeasures, (row.cell "n").isNaN = false) ∧
      ¬Record.Consistent (Record.compareBy [⟨"n", .asc⟩]) largeMeasures ∧
      (Record.sortedBy [⟨"n", .asc⟩] largeMeasures).map (fun row => (row.cell "id").int?) = [some 1, some 2, some 3] ∧
      ¬Record.InOrder [⟨"n", .asc⟩] (Record.sortedBy [⟨"n", .asc⟩] largeMeasures) := by
  refine ⟨by decide, fun h => ?_, by decide +kernel, ?_⟩
  · have heq := h.eq_trans _ (List.getElem_mem (by decide : 0 < largeMeasures.length)) _
      (List.getElem_mem (by decide : 1 < largeMeasures.length)) _
      (List.getElem_mem (by decide : 2 < largeMeasures.length)) (by decide +kernel) (by decide +kernel)
    exact absurd heq (by decide +kernel)
  · unfold Record.InOrder
    decide +kernel

end Sample

end DataModel

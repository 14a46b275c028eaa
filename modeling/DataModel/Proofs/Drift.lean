import DataModel.Proofs.Coherence

/-! The columns that a diff changes are described as they are declared, and those that it adds come after them. Of
living columns with different names nothing is left to add or to change then, under the types of any database,
and the same columns are no longer declared. -/

namespace DataModel

namespace LiveColumn

/-- A column as a database describes it when it is just made. -/
def declared (native : NativeTypes) (c : ColumnDefinition) : LiveColumn :=
  { ofDefinition c with dataType := native c.kind }

end LiveColumn

namespace TableDiff

variable {d : TableDiff} {native : NativeTypes} {l : LiveColumn}

/-- A living column after a diff: as it is declared when the diff changes it, and as it was otherwise. -/
def renewed (d : TableDiff) (native : NativeTypes) (l : LiveColumn) : LiveColumn :=
  match d.change.find? fun c => c.name = l.name with
  | some c => .declared native c
  | none => l

/-- Living columns after a diff: the changed ones in their places, and the added ones after them. -/
def applied (d : TableDiff) (native : NativeTypes) (live : List LiveColumn) : List LiveColumn :=
  live.map (d.renewed native) ++ d.add.map (.declared native)

theorem isEmpty_iff : d.isEmpty = true ↔ d = ⟨[], []⟩ := by
  obtain ⟨add, change⟩ := d
  simp [isEmpty]

theorem renewed_eq_self (h : ∀ c ∈ d.change, c.name ≠ l.name) : d.renewed native l = l := by
  have hnone : (d.change.find? fun c => c.name = l.name) = none :=
    List.find?_eq_none.2 fun c hc => by simpa using h c hc
  rw [renewed, hnone]

theorem renewed_of_mem (hnames : (d.change.map ColumnDefinition.name).Nodup) {c : ColumnDefinition}
    (hc : c ∈ d.change) (hname : c.name = l.name) : d.renewed native l = .declared native c := by
  have hfind := Model.find?_name hnames hc
  rw [hname] at hfind
  rw [renewed, hfind]

theorem name_renewed : (d.renewed native l).name = l.name := by
  unfold renewed
  split
  next c hc =>
    have hname : c.name = l.name := by simpa using List.find?_some hc
    exact hname
  next => rfl

theorem names_applied (d : TableDiff) (native : NativeTypes) (live : List LiveColumn) :
    (d.applied native live).map LiveColumn.name =
      live.map LiveColumn.name ++ d.add.map ColumnDefinition.name := by
  rw [applied, List.map_append, List.map_map, List.map_map]
  congr 1
  exact List.map_congr_left fun _ _ => name_renewed

end TableDiff

namespace Model

variable {m : Model} {native : NativeTypes} {live : List LiveColumn} {c : ColumnDefinition}

theorem isAsDefined_declared (native : NativeTypes) (c : ColumnDefinition) :
    isAsDefined native (.declared native c) c = true := by
  simp only [isAsDefined, LiveColumn.declared, LiveColumn.ofDefinition, LiveColumn.sameShape, beq_self_eq_true,
    Bool.and_true, decide_true, Bool.true_and]
  cases c.kind.maxLength <;> cases c.kind.shape <;> simp [LiveColumn.agrees]

theorem liveColumn?_eq_none_iff {name : String} : liveColumn? live name = none ↔ name ∉ live.map LiveColumn.name := by
  simp only [liveColumn?, List.find?_eq_none, List.mem_reverse, decide_eq_true_eq, List.mem_map, not_exists, not_and]

/-- Where the names differ, the living column of a name is the one that has it. -/
theorem liveColumn?_name (hlive : (live.map LiveColumn.name).Nodup) {l : LiveColumn} (hl : l ∈ live) :
    liveColumn? live l.name = some l := by
  refine find?_name ?_ (List.mem_reverse.2 hl)
  rw [List.map_reverse, List.nodup_reverse]
  exact hlive

theorem mem_add : c ∈ (diff native m live).add ↔ c ∈ m.definitions ∧ c.name ∉ live.map LiveColumn.name := by
  rw [← liveColumn?_eq_none_iff, ← Option.isNone_iff_eq_none]
  exact List.mem_filter

/-- What is changed are the definitions of living columns that are not as defined, except for the primary key. -/
theorem mem_change (hlive : (live.map LiveColumn.name).Nodup) :
    c ∈ (diff native m live).change ↔
      c ∈ m.definitions ∧ ∃ l ∈ live, l.name = c.name ∧ c.primary = false ∧ isAsDefined native l c = false := by
  refine List.mem_filter.trans (and_congr_right fun _ => ?_)
  constructor
  · intro h
    split at h
    next l hl =>
      have hname : l.name = c.name := by simpa using List.find?_some hl
      rw [Bool.and_eq_true, Bool.not_eq_true', Bool.not_eq_true'] at h
      exact ⟨l, List.mem_reverse.1 (List.mem_of_find?_eq_some hl), hname, h⟩
    next => cases h
  · rintro ⟨l, hl, hname, hprimary, hdefined⟩
    rw [← hname, liveColumn?_name hlive hl]
    simp only [hprimary, hdefined, Bool.not_false, Bool.and_true]

namespace Coherent

variable (hm : m.Coherent)
include hm

theorem nodup_definitions : (m.definitions.map ColumnDefinition.name).Nodup :=
  m.names_definitions ▸ hm.names

theorem nodup_add (native : NativeTypes) (live : List LiveColumn) :
    ((diff native m live).add.map ColumnDefinition.name).Nodup :=
  (List.filter_sublist.map _).nodup hm.nodup_definitions

theorem nodup_change (native : NativeTypes) (live : List LiveColumn) :
    ((diff native m live).change.map ColumnDefinition.name).Nodup :=
  (List.filter_sublist.map _).nodup hm.nodup_definitions

theorem nodup_applied (native : NativeTypes) (hlive : (live.map LiveColumn.name).Nodup) :
    (((diff native m live).applied native live).map LiveColumn.name).Nodup := by
  rw [TableDiff.names_applied]
  refine hlive.append (hm.nodup_add native live) fun name hname hadded => ?_
  obtain ⟨c, hc, rfl⟩ := List.mem_map.1 hadded
  exact (mem_add.1 hc).2 hname

/-- After a diff every defined column lives, and it is as defined unless it is the primary key. -/
theorem exists_applied (native : NativeTypes) (hlive : (live.map LiveColumn.name).Nodup) (hc : c ∈ m.definitions) :
    ∃ l ∈ (diff native m live).applied native live, l.name = c.name ∧
      (c.primary = true ∨ isAsDefined native l c = true) := by
  by_cases hin : c.name ∈ live.map LiveColumn.name
  · obtain ⟨l, hl, hname⟩ := List.mem_map.1 hin
    refine ⟨_, List.mem_append_left _ (List.mem_map_of_mem hl), TableDiff.name_renewed.trans hname, ?_⟩
    by_cases hchange : c ∈ (diff native m live).change
    · rw [TableDiff.renewed_of_mem (hm.nodup_change native live) hchange hname.symm]
      exact Or.inr (isAsDefined_declared native c)
    · -- no other definition has the name, so the column is left as it is
      have hself : (diff native m live).renewed native l = l := by
        refine TableDiff.renewed_eq_self fun d hd hsame => hchange ?_
        have hdefined := ((mem_change hlive).1 hd).1
        rw [← List.inj_on_of_nodup_map hm.nodup_definitions hdefined hc (hsame.trans hname)]
        exact hd
      rw [hself]
      by_contra hneither
      rw [not_or, Bool.not_eq_true, Bool.not_eq_true] at hneither
      exact hchange ((mem_change hlive).2 ⟨hc, l, hl, hname, hneither⟩)
  · refine ⟨.declared native c, List.mem_append_right _ ?_, rfl, Or.inr (isAsDefined_declared native c)⟩
    exact List.mem_map_of_mem (mem_add.2 ⟨hc, hin⟩)

/-- After a diff nothing is left to be done. -/
theorem diff_applied (native : NativeTypes) (hlive : (live.map LiveColumn.name).Nodup) :
    diff native m ((diff native m live).applied native live) = ⟨[], []⟩ := by
  have hnames := hm.nodup_applied native hlive
  generalize happlied : (diff native m live).applied native live = after at hnames ⊢
  have hadd : (diff native m after).add = [] := by
    refine List.eq_nil_iff_forall_not_mem.2 fun c hc => ?_
    obtain ⟨hdefined, hnew⟩ := mem_add.1 hc
    obtain ⟨l, hl, hname, -⟩ := hm.exists_applied native hlive hdefined
    exact hnew (hname ▸ List.mem_map_of_mem (happlied ▸ hl))
  have hchange : (diff native m after).change = [] := by
    refine List.eq_nil_iff_forall_not_mem.2 fun c hc => ?_
    obtain ⟨hdefined, l', hl', hname', hprimary, hdiffers⟩ := (mem_change hnames).1 hc
    obtain ⟨l, hl, hname, hsame⟩ := hm.exists_applied native hlive hdefined
    rw [List.inj_on_of_nodup_map hnames hl' (happlied ▸ hl) (hname'.trans hname.symm)] at hdiffers
    rcases hsame with hsame | hsame
    · exact Bool.false_ne_true (hprimary.symm.trans hsame)
    · exact Bool.false_ne_true (hdiffers.symm.trans hsame)
  exact congrArg₂ TableDiff.mk hadd hchange

end Coherent

theorem hasColumn_of_definition (hc : c ∈ m.definitions) : m.hasColumn c.name = true := by
  have hname : c.name ∈ m.definitions.map ColumnDefinition.name := List.mem_map_of_mem hc
  rw [names_definitions] at hname
  exact hasColumnIn_iff.2 hname

/-- A diff adds declared columns only, so the same columns are no longer declared. -/
theorem retained_applied (m : Model) (native : NativeTypes) (live : List LiveColumn) :
    m.retained ((diff native m live).applied native live) = m.retained live := by
  have hadded : ((diff native m live).add.map ColumnDefinition.name).filter (fun n => !m.hasColumn n) = [] := by
    refine List.filter_eq_nil_iff.2 fun name hname => ?_
    obtain ⟨c, hc, rfl⟩ := List.mem_map.1 hname
    simp [hasColumn_of_definition (mem_add.1 hc).1]
  rw [retained, TableDiff.names_applied, List.filter_append, hadded, List.append_nil, retained]

theorem applied_nil (m : Model) : (diff Kind.name m []).applied Kind.name [] = m.liveColumns := by
  have hall : (diff Kind.name m []).add = m.definitions := List.filter_eq_self.2 fun _ _ => rfl
  rw [TableDiff.applied, hall]
  rfl

theorem Coherent.diff_made (hm : m.Coherent) : diff Kind.name m m.liveColumns = ⟨[], []⟩ :=
  m.applied_nil ▸ hm.diff_applied Kind.name List.nodup_nil

end Model

end DataModel

import DataModel.Proofs.Operation
import DataModel.Proofs.Provenance
import DataModel.Proofs.Sample

/-!
# Deleted rows are invisible and frozen

On a model that marks deleted rows, a stored row with the mark is not among the rows of any request and not
counted, unless the request asks for deleted rows; and no operation changes it. This holds for every filter,
at every depth of the eager-loads (`Library.Sourced`), and at every point of every run of operations.
-/

namespace DataModel

namespace Handle

variable {h : Handle} {q : Descriptor}

/-- Whether what is read for a request comes from stored rows that are not deleted, at every depth where
deleted rows are not asked for. -/
structure Hides (h : Handle) (q : Descriptor) : Prop where
  get : ∀ rows, h.get q = .ok rows → h.library.Sourced h.model q rows
  find : ∀ id row, h.find id q = .ok row → h.library.Sourced h.model q [row]
  paginate : ∀ page size p, h.paginate q page size = .ok p → h.library.Sourced h.model q p.data
  count : q.withTrashed = false → ∀ n, h.count q = .ok n →
    n = (h.stored.filter fun row => row.passes q.wheres && row.isNullAt deletedAt).length

theorem get_sourced {rows : List Record} (hg : h.get q = .ok rows) : h.library.Sourced h.model q rows :=
  (Library.answers_of_run hg).sourced

theorem find_sourced {id : Value} {row : Record} (hf : h.find id q = .ok row) :
    h.library.Sourced h.model q [row] := by
  obtain ⟨rows, hg, hf⟩ := bind_eq_ok_iff.1 hf
  cases rows with
  | nil => cases hf
  | cons first rest =>
    rw [ok_eq_ok_iff.1 hf]
    exact (get_sourced hg).head.weaken rfl rfl rfl fun row hrow => Library.passes_of_narrowed hrow

theorem paginate_sourced {page size : UInt64} {p : Page} (hp : h.paginate q page size = .ok p) :
    h.library.Sourced h.model q p.data := by
  obtain ⟨total, -, hp⟩ := bind_eq_ok_iff.1 hp
  obtain ⟨rows, hrows, hp⟩ := bind_eq_ok_iff.1 hp
  have hdata : p.data = rows := congrArg Page.data (ok_eq_ok_iff.1 hp)
  rw [hdata]
  unfold Library.pageRows at hrows
  split at hrows
  · split at hrows
    · exact (Library.answers_of_run hrows).sourced.weaken rfl rfl rfl fun _ hrow => hrow
    · rw [ok_eq_ok_iff.1 hrows]
      exact .nothing
  · rw [ok_eq_ok_iff.1 hrows]
    exact .nothing

/-- The rows that are counted pass the filter and are not deleted. -/
theorem count_eq {n : Nat} (hm : h.model.marksDeleted = true) (hq : q.withTrashed = false)
    (hc : h.count q = .ok n) :
    n = (h.stored.filter fun row => row.passes q.wheres && row.isNullAt deletedAt).length := by
  obtain ⟨filter, hf, hc⟩ := bind_eq_ok_iff.1 hc
  obtain ⟨t, ht, hc⟩ := bind_eq_ok_iff.1 (Library.ofStore_eq_ok_iff.1 hc)
  obtain ⟨-, hc⟩ := check_bind_eq_ok_iff.1 hc
  rw [ok_eq_ok_iff.1 hc, stored, Library.rowsOf, Store.rowsOf_of_table ht, Table.matching]
  refine congrArg List.length (List.filter_congr fun row _ => ?_)
  rw [Model.passes_filter hf, Model.admits, Model.guards, hm, hq]
  simp

theorem hides (hm : h.model.marksDeleted = true) (q : Descriptor) : h.Hides q where
  get _ hg := get_sourced hg
  find _ _ hf := find_sourced hf
  paginate _ _ _ hp := paginate_sourced hp
  count hq _ hc := count_eq hm hq hc

theorem model_run (h : Handle) (ops : List Operation) : (h.run ops).model = h.model := by
  induction ops generalizing h with
  | nil => rfl
  | cons op ops ih => exact ih (h.step op)

/-- On a model that marks deleted rows, what is read after any run comes from rows that are not deleted, where
deleted ones are not asked for; this holds at every depth, and of the rows of every other model. And a row that
is deleted at some point of the run is the same row at its end, in its place, when the table was not migrated
since; when it was, the row has every cell it had. -/
theorem deleted_hidden_and_frozen {ops : List Operation} (hm : h.model.marksDeleted = true)
    (hops : ∀ op ∈ ops, op.Plain) :
    (∀ q : Descriptor, (h.run ops).Hides q) ∧
      (∀ (chain : List Link) (m : Model) (q : Descriptor) (rows : List Record),
        (h.run ops).library.Answers chain m q rows → (h.run ops).library.Sourced m q rows) ∧
      ∀ before since, ops = before ++ since → ∀ (i : Nat) (row : Record),
        (h.run before).stored[i]? = some row → row.isNullAt deletedAt = false →
          ((∀ op ∈ since, op.isMigration = false) → (h.run ops).stored[i]? = some row) ∧
            (h.library.store.Sound → ∃ row' : Record, (h.run ops).stored[i]? = some row' ∧
              ∀ c v, row.get? c = some v → row'.get? c = some v) := by
  refine ⟨?_, ?_, ?_⟩
  · intro q
    exact hides (by rw [model_run, hm]) q
  · intro chain m q rows ha
    exact ha.sourced
  · rintro before since rfl i row hrow hdeleted
    have hm' : (h.run before).model.marksDeleted = true := by rw [model_run, hm]
    rw [List.forall_mem_append] at hops
    rw [run, List.foldl_append]
    constructor
    · intro hmigrate
      exact run_freezes hm' hops.2 hmigrate i row hrow hdeleted
    · intro hs
      have hsound := (run_keeps hm hops.1 hs).1
      exact (run_keeps hm' hops.2 hsound).2 i row hrow hdeleted

end Handle

namespace Sample

def handle : Handle :=
  ⟨library, author⟩

/-- Delete all authors, change the one that was deleted before, and bring the table in line. -/
def operations : List Handle.Operation :=
  [.deleteWhere "2025-01-01" .empty, .updateWhere ⟨"2025-01-01", [], 4⟩ .empty [("name", .text "Di")],
    .delete "2025-01-01" (.int 2), .migrate]

/-- The author who is deleted is found in no request after the operations, and keeps every cell. -/
theorem deleted_author_stays :
    (∀ q : Descriptor, (handle.run operations).Hides q) ∧
      ∃ row' : Record, (handle.run operations).stored[1]? = some row' ∧
        row'.get? "name" = some (.text "Bo") ∧ row'.get? "deleted_at" = some (.text "2024-02-29") := by
  have hplain : ∀ op ∈ operations, op.Plain := by
    intro op hop
    simp only [operations, List.mem_cons, List.not_mem_nil, or_false] at hop
    rcases hop with rfl | rfl | rfl | rfl
    · rfl
    · rfl
    · trivial
    · trivial
  obtain ⟨hhides, -, hfrozen⟩ := Handle.deleted_hidden_and_frozen (h := handle) rfl hplain
  obtain ⟨row', hrow, hcells⟩ := (hfrozen [] operations rfl 1 _ rfl rfl).2 sound_library
  exact ⟨hhides, row', hrow, hcells "name" _ rfl, hcells "deleted_at" _ rfl⟩

/-- A book with the list of its writers, of whom there is one at most. -/
def signedBook : Model :=
  model "book" "books" ["id", "author_id"] [("writers", ⟨.oneToMany, "author", "author_id", "id", none, none⟩)] false

/-- The authors, and a book by the one who is deleted. -/
def bookcase : Library :=
  ⟨library.registry, ⟨[("authors", authors), ("books", table ["id", "author_id"] [[.int 5, .int 2]])]⟩⟩

def writerRequest : Descriptor :=
  { Descriptor.empty with withs := [("writers", ⟨none, none⟩)] }

/-- The book, with some writers. -/
def signed (writers : List Record) : Record :=
  [("id", .int 5), ("author_id", .int 2), ("writers", .list (writers.map .map))]

/-- The writer who is deleted is not listed, and rows that list them in any form do not come from stored rows. -/
theorem deleted_writer_unlisted : bookcase.run signedBook writerRequest = .ok [signed []] ∧
    ∀ writer : Record, writer.cell "id" = .int 2 → ¬ bookcase.Sourced signedBook writerRequest [signed [writer]] := by
  refine ⟨rfl, fun writer hid h => ?_⟩
  cases h with
  | rows sources children keys stored passing live names rendered below =>
    obtain ⟨source, rest, hrow, -, rfl⟩ := List.forall₂_cons_right_iff.1 rendered
    have hsource : source = [("id", .int 5), ("author_id", .int 2)] :=
      List.mem_singleton.1 (stored.subset List.mem_cons_self)
    -- the stored book has no list of writers, so the eager-load has put it there
    rcases hrow.get?_cases "writers" with hkept | ⟨load, hload, -, r, other, sub, v, hl, hattached, hv⟩
    · rw [hsource] at hkept
      cases hkept
    obtain rfl := List.mem_singleton.1 hload
    obtain ⟨rfl, rfl, rfl⟩ := hl.unique (⟨rfl, rfl, rfl⟩ : bookcase.Loads signedBook _ _ author _)
    have hlisted : bookcase.Attached _ _ _ (.list ([writer].map .map)) := Option.some.inj hv ▸ hattached
    have hwriter := hlisted.mem_of_listed rfl writer List.mem_cons_self
    obtain ⟨other, hother, hlive, hcells⟩ := (below _ hload _ _ _ hl).exists_live rfl rfl writer hwriter
    have hsame : other.cell "id" = .int 2 := (hcells "id" rfl (Or.inl rfl)).symm.trans hid
    have hauthors : other ∈ authors.rows := hother
    simp only [authors, table, List.map_cons, List.map_nil, List.mem_cons, List.not_mem_nil, or_false] at hauthors
    rcases hauthors with rfl | rfl | rfl
    · exact absurd (Value.int.inj hsame) (by decide)
    · cases hlive
    · exact absurd (Value.int.inj hsame) (by decide)

end Sample

end DataModel

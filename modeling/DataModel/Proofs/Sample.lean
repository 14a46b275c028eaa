import DataModel.Proofs.Narrowing
import DataModel.Proofs.Storage

/-! Models and tables from names of columns and lists of cells, and a library of authors, books and tags to try
statements about requests on. An author has written books, and books are tagged through a table of links. One
of the authors is deleted. -/

namespace DataModel.Sample

/-- A column for integers. -/
def column (name : String) : Column :=
  { name
    kind := .integer
    nullable := true
    default := none
    unique := false
    index := false
    crypt := none
    options := []
    rule := none
    pattern := none
    comment := none
    implicit := false }

/-- A model with columns and relations. -/
def model (name table : String) (columns : List String) (relations : Assoc Relation) (softDeletes : Bool) : Model :=
  { name
    source := ""
    declared := ⟨name, ⟨table, none⟩, [], relations, ⟨false, softDeletes⟩⟩
    columns := columns.map column
    primaryKey := defaultPrimaryKey }

/-- A table with columns and rows. -/
def table (columns : List String) (rows : List (List Value)) : Table :=
  { columns := columns.map fun c => .ofDefinition ((model "" "" columns [] false).definition (column c))
    defaults := []
    primaryKey := some defaultPrimaryKey
    autoIncrement := true
    nextId := 100
    rows := rows.map fun cells => columns.zip cells }

theorem hasColumn_model (name table : String) (columns : List String) (relations : Assoc Relation)
    (softDeletes : Bool) (c : String) :
    (model name table columns relations softDeletes).hasColumn c = columns.contains c := by
  rw [Bool.eq_iff_iff, Model.hasColumn, Model.hasColumnIn, model, List.any_map, List.any_eq_true,
    List.contains_iff_mem]
  constructor
  · rintro ⟨x, hx, h⟩
    rw [← (of_decide_eq_true h : x = c)]
    exact hx
  · intro h
    exact ⟨c, h, decide_eq_true rfl⟩

theorem names_table (columns : List String) (rows : List (List Value)) :
    (table columns rows).columns.map LiveColumn.name = columns := by
  rw [table, List.map_map]
  refine (List.map_congr_left fun c _ => ?_).trans (List.map_id columns)
  rw [Function.comp_apply, LiveColumn.ofDefinition, Model.definition]
  split <;> rfl

theorem hasColumn_table (columns : List String) (rows : List (List Value)) (c : String) :
    (table columns rows).hasColumn c = columns.contains c := by
  rw [Bool.eq_iff_iff, Table.hasColumn_iff, names_table, List.contains_iff_mem]

/-- A table is sound when its rows have a cell for each column. -/
theorem sound_table {columns : List String} {rows : List (List Value)}
    (hid : defaultPrimaryKey ∈ columns) (hrows : ∀ cells ∈ rows, cells.length = columns.length) :
    (table columns rows).Sound where
  rows row hrow c := by
    obtain ⟨cells, hcells, rfl⟩ := List.mem_map.1 hrow
    rw [Table.hasColumn_iff, names_table, Assoc.keys, List.map_fst_zip (Nat.le_of_eq (hrows cells hcells).symm)]
  primary key hkey := by
    rw [Table.hasColumn_iff, names_table, ← Option.some.inj hkey]
    exact hid

/-- The books of an author. -/
def written : Relation :=
  ⟨.oneToMany, "book", "id", "author_id", none, none⟩

/-- The tags of a book. -/
def tagged : Relation :=
  ⟨.manyToMany, "tag", "id", "id", some ⟨"book_tags", "book_id", "tag_id", []⟩, none⟩

def author : Model :=
  model "author" "authors" ["id", "name", "deleted_at"] [("books", written)] true

def book : Model :=
  model "book" "books" ["id", "author_id"] [("tags", tagged)] false

def tag : Model :=
  model "tag" "tags" ["id", "word"] [] false

def authors : Table :=
  table ["id", "name", "deleted_at"]
    [[.int 1, .text "Ada", .null], [.int 2, .text "Bo", .text "2024-02-29"], [.int 3, .text "Cy", .null]]

def books : Table :=
  table ["id", "author_id"] [[.int 1, .int 1], [.int 2, .int 3], [.int 3, .int 1], [.int 4, .null]]

def tags : Table :=
  table ["id", "word"] [[.int 1, .text "old"], [.int 2, .text "new"]]

def bookTags : Table :=
  table ["id", "book_id", "tag_id", "weight"]
    [[.int 1, .int 1, .int 2, .int 5], [.int 2, .int 3, .int 1, .int 7], [.int 3, .int 1, .int 1, .null]]

def library : Library :=
  ⟨⟨[("author", author), ("book", book), ("tag", tag)]⟩,
    ⟨[("authors", authors), ("books", books), ("tags", tags), ("book_tags", bookTags)]⟩⟩

/-- The request for books with their tags. -/
def tagRequest : Descriptor :=
  { Descriptor.empty with withs := [("tags", ⟨none, none⟩)] }

/-- The request for the names of authors with their books and the tags of these. It also names a relation
that is not declared. -/
def request : Descriptor :=
  { Descriptor.empty with
    select := ["name"]
    withs := [("books", ⟨none, some tagRequest⟩), ("prizes", ⟨none, none⟩)] }

/-- A book with its tags. -/
def bookWith (id : Int64) (writer : Value) (tags : List Record) : Record :=
  [("id", .int id), ("author_id", writer), ("tags", .list (tags.map .map))]

/-- A tag with the weight of its link. -/
def weighted (id : Int64) (word : String) (weight : Value) : Record :=
  [("id", .int id), ("word", .text word), ("weight", weight)]

/-- All books with their tags. -/
def taggedBooks : List Record :=
  [bookWith 1 (.int 1) [weighted 2 "new" (.int 5), weighted 1 "old" .null],
    bookWith 2 (.int 3) [],
    bookWith 3 (.int 1) [weighted 1 "old" (.int 7)],
    bookWith 4 .null []]

/-- The authors that are not deleted, each with the books that are the author's own. -/
def answer : List Record :=
  [[("name", .text "Ada"), ("id", .int 1),
      ("books", .list [.map (bookWith 1 (.int 1) [weighted 2 "new" (.int 5), weighted 1 "old" .null]),
        .map (bookWith 3 (.int 1) [weighted 1 "old" (.int 7)])])],
    [("name", .text "Cy"), ("id", .int 3), ("books", .list [.map (bookWith 2 (.int 3) [])])]]

theorem run_tagRequest : library.run book tagRequest = .ok taggedBooks := rfl

theorem run_request : library.run author request = .ok answer := rfl

theorem distinct_tagRequest : Assoc.Distinct tagRequest.withs := by
  unfold Assoc.Distinct
  decide

theorem distinct_request : Assoc.Distinct request.withs := by
  unfold Assoc.Distinct
  decide

theorem sound_library : library.store.Sound := by
  intro e he
  simp only [library, List.mem_cons, List.not_mem_nil, or_false] at he
  rcases he with rfl | rfl | rfl | rfl
  · exact sound_table (by decide) (by decide)
  · exact sound_table (by decide) (by decide)
  · exact sound_table (by decide) (by decide)
  · exact sound_table (by decide) (by decide)

/-- A person has a name and notes, both of which have to be there. -/
def declaredPerson : Metadata :=
  { name := "person"
    table := ⟨"people", none⟩
    columns := [.added "name" "text" false, .added "notes" "json" false]
    relations := []
    options := ⟨false, true⟩ }

def person : Model :=
  match Model.resolve "person" "" declaredPerson with
  | .ok m => m
  | .error _ => author

theorem resolve_person : Model.resolve "person" "" declaredPerson = .ok person := rfl

/-- Orders have a status, which is said or is the default one. -/
def declaredOrder (status : String) : Metadata :=
  { name := "order"
    table := ⟨"orders", none⟩
    columns :=
      [.added "id" "ID" true,
        { ColumnDeclaration.added "status" "string" false with default := some (.text status) },
        .added "note" "string" true]
    relations := []
    options := ⟨false, false⟩ }

/-- The model of a document that can be read. -/
def resolved (declared : Metadata) : Model :=
  match Model.resolve declared.name "" declared with
  | .ok m => m
  | .error _ => author

/-- Orders that are open unless they are said to be something else. -/
def order : Model :=
  resolved (declaredOrder "open")

theorem resolve_order : Model.resolve "order" "" (declaredOrder "open") = .ok order := rfl

/-- Books and tags are matched by integers, as are the links between them. -/
theorem keyCells_tagged {rows : List Record} (hrows : ∀ row ∈ rows, (row.cell "id").isKeyCell = true)
    (sub : Descriptor) : library.KeyCells rows tagged tag sub := by
  have htags : ∀ row ∈ library.rowsOf "tags", (row.cell "id").isKeyCell = true := by decide
  have hlinks : ∀ row ∈ library.rowsOf "book_tags",
      (row.cell "book_id").isKeyCell = true ∧ (row.cell "tag_id").isKeyCell = true := by decide
  refine ⟨hrows, fun row hrow _ => htags row hrow, ?_, ?_⟩
  · rintro p - hp row hrow
    obtain rfl := Option.some.inj hp
    exact (hlinks row hrow).1
  · rintro p - hp row hrow -
    obtain rfl := Option.some.inj hp
    exact (hlinks row hrow).2

end DataModel.Sample

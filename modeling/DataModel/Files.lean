import DataModel.Assoc
import DataModel.Text.Segment

/-!
# Files

The files that sources may name: texts and directories by place. A path leads to a place segment by
segment: empty segments and single dots stay, two dots go back to the directory above, any other
segment goes on to what has that name. Every step starts from a directory.
-/

namespace DataModel

/-- What stands at a place. -/
inductive FileEntry where
  | text (s : String)
  | directory
deriving DecidableEq

/-- Files and directories by place. -/
structure Files where
  entries : Assoc FileEntry

namespace Files

/-- No files at all. -/
def empty : Files :=
  ⟨[]⟩

/-- The key of a place: the names that lead to it. -/
def keyOf (place : List String) : String :=
  Segment.join "/" place

/-- What stands at a place; above everything there is a directory. -/
def at? (f : Files) (place : List String) : Option FileEntry :=
  if place.isEmpty then some .directory else f.entries.get? (keyOf place)

/-- Whether a segment of a path stays where it is. -/
def stays (segment : String) : Bool :=
  segment = "" || segment = "."

/-- The place one segment further. -/
def onward (place : List String) (segment : String) : List String :=
  if stays segment then place else if segment = ".." then place.dropLast else place ++ [segment]

/-- One step of a path, from a directory to something that is there. -/
def step? (f : Files) (place : List String) (segment : String) : Option (List String) := do
  let here ← f.at? place
  let next := onward place segment
  if here = .directory ∧ (f.at? next).isSome then some next else none

/-- The place a path leads to. -/
def locate? (f : Files) (path : String) : Option (List String) :=
  (Segment.pieces '/' path).foldlM f.step? []

/-- The text of a file. -/
def read? (f : Files) (path : String) : Option String := do
  match ← f.at? (← f.locate? path) with
  | .text s => some s
  | .directory => none

/-- The name of a key that lies directly in a directory. -/
def nameIn? (directory : List String) (key : String) : Option String :=
  match (Segment.pieces '/' key).reverse with
  | name :: above => if above.reverse = directory then some name else none
  | [] => none

/-- The names in a directory; `none` when there is no such directory. -/
def names? (f : Files) (directory : String) : Option (List String) := do
  let place ← f.locate? directory
  if (← f.at? place) = .directory then some (f.entries.keys.filterMap (nameIn? place)) else none

/-- One step of a path that makes a directory where nothing is. -/
def makeStep? (made : Files × List String) (segment : String) : Option (Files × List String) :=
  let next := onward made.2 segment
  match made.1.at? next with
  | some .directory => some (made.1, next)
  | some (.text _) => none
  | none => some (⟨made.1.entries.insert (keyOf next) .directory⟩, next)

/-- Write a file, with the directories its path leads through. Where that cannot be, nothing
changes. -/
def write (f : Files) (path text : String) : Files :=
  let segments := Segment.pieces '/' path
  let name := segments.getLast?.getD ""
  match segments.dropLast.foldlM makeStep? (f, []) with
  | none => f
  | some (made, place) =>
    let next := onward place name
    if stays name ∨ name = ".." ∨ made.at? next = some .directory then made
    else ⟨made.entries.insert (keyOf next) (.text text)⟩

/-- Remove a file. -/
def remove (f : Files) (path : String) : Files :=
  match f.read? path, f.locate? path with
  | some _, some place => ⟨f.entries.erase (keyOf place)⟩
  | _, _ => f

end Files

end DataModel

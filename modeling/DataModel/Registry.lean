import DataModel.Files
import DataModel.Model

/-! The loaded models by name. A model is loaded from a source: a text, or the path of a file that holds one. An
entry is replaced only by a model that is complete; when loading fails the old one stays. -/

namespace DataModel

/-- What stands before the path of a file that holds a source. -/
def fileMark : String :=
  "file://"

/-- The path of a source that is in a file. -/
def filePath? (source : String) : Option String :=
  (Segment.after? fileMark.toList source.toList).map String.ofList

/-- The text of a source. -/
def Files.readSource (f : Files) (source : String) : Except ParseProblem String :=
  match filePath? source with
  | none => .ok source
  | some path =>
    match f.read? path with
    | some text => .ok text
    | none => .error (.file path)

/-- The model of a source. -/
def Model.load (f : Files) (source name : String) : Except ParseProblem Model := do
  let text ← f.readSource source
  Model.ofText name source text

/-- The name of a model by the name of its file: what stands before the extension `.json`, if
something does. -/
def modelNameOf? (file : String) : Option String :=
  match Segment.after? ".json".toList.reverse file.toList.reverse with
  | some (c :: cs) => some (String.ofList (c :: cs).reverse)
  | _ => none

/-- Names in order. -/
def sortedNames (names : List String) : List String :=
  Assoc.keys (Assoc.sortedByKey (names.map fun n => (n, ())))

/-- The path of a name in a directory, with one slash between them. -/
def pathIn (directory name : String) : String :=
  if directory.toList.getLast? = some '/' then directory ++ name else directory ++ "/" ++ name

/-- The models of the files of a directory, in the order of the names of the files. -/
def Files.loadDirectory (f : Files) (directory : String) : Except ParseProblem (List Model) :=
  match f.names? directory with
  | none => .error (.file directory)
  | some names =>
    let found := (sortedNames names).filterMap fun file =>
      (modelNameOf? file).map fun name => (name, fileMark ++ pathIn directory file)
    found.mapM fun p => Model.load f p.2 p.1

/-- The loaded models, ordered by name. -/
structure Registry where
  models : Assoc Model

namespace Registry

/-- No models. -/
def empty : Registry :=
  ⟨[]⟩

/-- The model of a name. -/
def get? (r : Registry) (name : String) : Option Model :=
  r.models.get? name

/-- The model of a name, or the failure that it is not loaded. -/
def find (r : Registry) (name : String) : Except ModelError Model :=
  match r.get? name with
  | some m => .ok m
  | none => .error (.modelNotLoaded name)

/-- Put a model under its name. -/
def register (r : Registry) (m : Model) : Registry :=
  ⟨r.models.insertSorted m.name m⟩

/-- Load a model and put it under its name. -/
def load (r : Registry) (f : Files) (source name : String) : Except ModelError (Model × Registry) :=
  match Model.load f source name with
  | .ok m => .ok (m, r.register m)
  | .error p => .error (.parse p)

/-- Load a model again from the source it came from. -/
def reload (r : Registry) (f : Files) (name : String) : Except ModelError (Model × Registry) := do
  let m ← r.find name
  r.load f m.source name

/-- Take a model out. -/
def remove (r : Registry) (name : String) : Option Model × Registry :=
  (r.get? name, ⟨r.models.erase name⟩)

/-- The names of the models in order. -/
def names (r : Registry) : List String :=
  r.models.keys

end Registry

end DataModel

import DataModel.Proofs.Publication
import DataModel.Proofs.Segment
import DataModel.Proofs.SortedPairs
import DataModel.Proofs.WellFormed
import Mathlib.Data.List.Infix
import Mathlib.Data.List.Pairwise

/-!
# The models of a directory

Every file of a directory that has a name before the extension makes a model of that name, and when one of them cannot
be read or holds no model none is loaded. The models come in the order of the files. This is the order of their names
but where a name goes on from another one with something less than the extension: `a-b.json` stands before `a.json`.
-/

namespace DataModel

/-! ## The order of names and of files -/

/-- A text that is less than another one is the beginning of it, or it is less whatever follows. -/
theorem prefix_or_append_lt {cs ds : List Char} (h : cs < ds) :
    (∃ more, more ≠ [] ∧ ds = cs ++ more) ∨ ∀ es fs, cs ++ es < ds ++ fs := by
  induction cs generalizing ds with
  | nil =>
    refine Or.inl ⟨ds, ?_, rfl⟩
    rintro rfl
    exact absurd h (List.not_lt_nil [])
  | cons c cs ih =>
    cases ds with
    | nil => exact absurd h (List.not_lt_nil _)
    | cons d ds =>
      rcases List.cons_lt_cons_iff.1 h with hlt | ⟨rfl, hrest⟩
      · exact Or.inr fun es fs => List.cons_lt_cons_iff.2 (Or.inl hlt)
      · refine (ih hrest).imp (fun ⟨more, hne, hds⟩ => ⟨more, hne, by rw [hds, List.cons_append]⟩) fun hall es fs => ?_
        exact List.cons_lt_cons_iff.2 (Or.inr ⟨rfl, hall es fs⟩)

theorem lt_of_append_left_lt {cs ds es : List Char} (h : cs ++ ds < cs ++ es) : ds < es := by
  induction cs with
  | nil => exact h
  | cons c cs ih =>
    rcases List.cons_lt_cons_iff.1 h with hlt | ⟨-, hrest⟩
    · exact absurd hlt (Char.lt_irrefl c)
    · exact ih hrest

/-- What is put before the extension brings it forward when it is less than the extension itself. -/
theorem append_extension_lt_iff {more : List Char} (hne : more ≠ []) :
    more ++ ".json".toList < ".json".toList ↔ more < ".json".toList := by
  constructor
  · intro h
    have hlonger : more ++ [] < more ++ ".json".toList := List.append_left_lt (List.nil_lt_cons _ _)
    rw [List.append_nil] at hlonger
    exact List.lt_trans hlonger h
  · intro h
    rcases prefix_or_append_lt h with ⟨rest, hrest, heq⟩ | hall
    · -- the extension is less than each of its endings
      have hendings : ∀ rest ∈ ".json".toList.tails, rest ≠ [] → rest ≠ ".json".toList → ".json".toList < rest := by
        decide
      have hshorter : rest ≠ ".json".toList := by
        rintro rfl
        exact hne (List.self_eq_append_left.1 heq)
      have hending : rest ∈ ".json".toList.tails := (List.mem_tails _ _).2 ⟨more, heq.symm⟩
      have hlt : more ++ ".json".toList < more ++ rest :=
        List.append_left_lt (hendings rest hending hrest hshorter)
      rwa [← heq] at hlt
    · simpa using hall ".json".toList []

/-- Names are in the order of their files, but where the first one goes on from the second one with something less than
the extension. -/
theorem lt_of_append_lt {s t : String} (h : s ++ ".json" < t ++ ".json") :
    s < t ∨ ∃ more, more ≠ "" ∧ s = t ++ more ∧ more < ".json" := by
  rw [String.lt_iff, String.toList_append, String.toList_append] at h
  by_cases hst : s < t
  · exact Or.inl hst
  have hne : s ≠ t := by
    rintro rfl
    exact List.lt_irrefl _ h
  have hlt : t < s := by
    by_contra hts
    exact hne (String.le_antisymm (String.not_lt.1 hts) (String.not_lt.1 hst))
  rcases prefix_or_append_lt (String.lt_iff.1 hlt) with ⟨more, hmore, heq⟩ | hall
  · rw [heq, List.append_assoc] at h
    have hless := lt_of_append_left_lt h
    refine Or.inr ⟨String.ofList more, ?_, ?_, ?_⟩
    · rw [Ne, ← String.toList_inj, String.toList_ofList]
      exact hmore
    · rw [← String.toList_inj, String.toList_append, String.toList_ofList, heq]
    · rw [String.lt_iff, String.toList_ofList]
      exact (append_extension_lt_iff hmore).1 hless
  · exact absurd (hall _ _) (List.lt_asymm h)

/-- A name that goes on from another one with something less than the extension comes after it, and its file before. -/
theorem append_lt_of_lt {t more : String} (hne : more ≠ "") (h : more < ".json") :
    t < t ++ more ∧ t ++ more ++ ".json" < t ++ ".json" := by
  have hmore : more.toList ≠ [] := by
    rw [Ne, ← String.toList_empty, String.toList_inj]
    exact hne
  constructor
  · rw [String.lt_iff, String.toList_append]
    obtain ⟨c, cs, hcs⟩ := List.exists_cons_of_ne_nil hmore
    have hlonger : t.toList ++ [] < t.toList ++ more.toList := List.append_left_lt (hcs ▸ List.nil_lt_cons c cs)
    rwa [List.append_nil] at hlonger
  · rw [String.lt_iff, String.toList_append, String.toList_append, String.toList_append, List.append_assoc]
    exact List.append_left_lt ((append_extension_lt_iff hmore).2 (String.lt_iff.1 h))

/-! ## What is in a directory -/

theorem reverse_eq_append_iff {file ext : String} {rest : List Char} :
    file.toList.reverse = ext.toList.reverse ++ rest ↔ file = String.ofList rest.reverse ++ ext := by
  rw [← String.toList_inj, String.toList_append, String.toList_ofList, ← List.reverse_inj, List.reverse_append,
    List.reverse_reverse, List.reverse_reverse]

/-- The name of a model is what stands before the extension in the name of its file. -/
theorem modelNameOf?_eq_some_iff {file name : String} :
    modelNameOf? file = some name ↔ name ≠ "" ∧ file = name ++ ".json" := by
  unfold modelNameOf?
  split
  next c cs hafter =>
    rw [Segment.after?_eq_some_iff, reverse_eq_append_iff] at hafter
    rw [Option.some.injEq]
    constructor
    · rintro rfl
      exact ⟨by simp, hafter⟩
    · rintro ⟨-, hfile⟩
      exact String.append_left_inj _ |>.1 (hafter.symm.trans hfile)
  next hnone =>
    refine ⟨nofun, fun ⟨hne, hfile⟩ => ?_⟩
    obtain ⟨c, cs, hcs⟩ : ∃ c cs, name.toList.reverse = c :: cs := List.exists_cons_of_ne_nil (by simpa using hne)
    have hname : name = String.ofList (c :: cs).reverse := by
      rw [← hcs, List.reverse_reverse, String.ofList_toList]
    exact absurd (Segment.after?_eq_some_iff.2 (reverse_eq_append_iff.2 (hname ▸ hfile))) (hnone c cs)

namespace Files

variable {f : Files} {directory name : String} {place : List String}

theorem step?_eq_some_iff {segment : String} {next : List String} :
    f.step? place segment = some next ↔
      f.at? place = some .directory ∧ next = onward place segment ∧ (f.at? next).isSome = true := by
  unfold step?
  constructor
  · intro h
    obtain ⟨here, hhere, h⟩ := Option.bind_eq_some_iff.1 h
    dsimp only at h
    split at h
    next hgo =>
      obtain rfl := Option.some.inj h
      exact ⟨hgo.1 ▸ hhere, rfl, hgo.2⟩
    next => cases h
  · rintro ⟨hhere, rfl, hnext⟩
    exact Option.bind_eq_some_iff.2 ⟨_, hhere, if_pos ⟨rfl, hnext⟩⟩

/-- A place that a path leads to is named without slashes. -/
theorem plain_of_locate? {path : String} (h : f.locate? path = some place) : ∀ s ∈ place, '/' ∉ s.toList := by
  suffices hall : ∀ segments : List String, (∀ s ∈ segments, '/' ∉ s.toList) → ∀ start : List String,
      (∀ s ∈ start, '/' ∉ s.toList) → segments.foldlM f.step? start = some place → ∀ s ∈ place, '/' ∉ s.toList from
    hall _ (fun s hs => Segment.not_mem_of_mem_pieces hs) [] (fun s hs => absurd hs List.not_mem_nil) h
  intro segments hsegments
  induction segments with
  | nil =>
    intro start hstart hrun
    rwa [← Option.some.inj hrun]
  | cons segment segments ih =>
    intro start hstart hrun
    rw [List.forall_mem_cons] at hsegments
    rw [List.foldlM_cons] at hrun
    obtain ⟨next, hnext, hrun⟩ := Option.bind_eq_some_iff.1 hrun
    refine ih hsegments.2 next ?_ hrun
    rw [(step?_eq_some_iff.1 hnext).2.1, onward]
    split
    · exact hstart
    split
    · exact fun s hs => hstart s (List.mem_of_mem_dropLast hs)
    · intro s hs
      rcases List.mem_append.1 hs with hs | hs
      · exact hstart s hs
      · rw [List.mem_singleton.1 hs]
        exact hsegments.1

theorem nameIn?_eq_some_iff {key : String} :
    nameIn? place key = some name ↔ Segment.pieces '/' key = place ++ [name] := by
  rw [← List.reverse_inj, List.reverse_append, List.reverse_singleton, List.singleton_append]
  unfold nameIn?
  split
  next last above hpieces =>
    rw [hpieces, List.cons.injEq]
    split
    next habove => rw [Option.some.injEq, ← habove, List.reverse_reverse, and_iff_left rfl]
    next habove => 
      refine ⟨nofun, fun h => absurd ?_ habove⟩
      rw [h.2, List.reverse_reverse]
  next hnil => simp [hnil]

/-- What is listed in a directory is what stands there. -/
theorem mem_filterMap_nameIn?_iff (hplain : ∀ s ∈ place, '/' ∉ s.toList) :
    name ∈ f.entries.keys.filterMap (nameIn? place) ↔ '/' ∉ name.toList ∧ (f.at? (place ++ [name])).isSome = true := by
  have hat : f.at? (place ++ [name]) = f.entries.get? (keyOf (place ++ [name])) := by
    rw [at?, if_neg (by simp)]
  have hmem : (f.at? (place ++ [name])).isSome = true ↔ keyOf (place ++ [name]) ∈ f.entries.keys := by
    rw [hat, Option.isSome_iff_ne_none, Ne, Assoc.get?_eq_none_iff, not_not]
  rw [hmem, List.mem_filterMap]
  constructor
  · rintro ⟨key, hkey, hname⟩
    rw [nameIn?_eq_some_iff] at hname
    refine ⟨Segment.not_mem_of_mem_pieces (hname ▸ List.mem_append_right _ List.mem_cons_self), ?_⟩
    have hjoined : keyOf (place ++ [name]) = key := by
      rw [← hname]
      exact Segment.join_pieces '/' key
    rwa [hjoined]
  · rintro ⟨hname, hkey⟩
    refine ⟨_, hkey, nameIn?_eq_some_iff.2 (Segment.pieces_join (by simp) fun s hs => ?_)⟩
    rcases List.mem_append.1 hs with hs | hs
    · exact hplain s hs
    · rwa [List.mem_singleton.1 hs]

theorem locate?_append {path : String} (h : f.locate? path = some place) (hname : '/' ∉ name.toList) :
    f.locate? (path ++ "/" ++ name) = f.step? place name := by
  have hpieces : Segment.pieces '/' (path ++ "/" ++ name) = Segment.pieces '/' path ++ [name] := by
    rw [← Segment.pieces_of_not_mem hname]
    exact Segment.pieces_append path name
  have hpath : (Segment.pieces '/' path).foldlM f.step? [] = some place := h
  rw [locate?, hpieces, List.foldlM_append, hpath]
  exact bind_pure (f.step? place name)

/-- What is in a directory is found under its path. -/
theorem locate?_pathIn (h : f.locate? directory = some place) (hname : '/' ∉ name.toList) :
    f.locate? (pathIn directory name) = f.step? place name := by
  unfold pathIn
  split
  next hslash =>
    obtain ⟨cs, hcs⟩ : ∃ cs, directory.toList = cs ++ ['/'] := List.getLast?_eq_some_iff.1 hslash
    obtain ⟨path, rfl⟩ : ∃ path, directory = path ++ "/" := ⟨String.ofList cs, by rw [← String.toList_inj, hcs]; simp⟩
    -- the last segment of the path of the directory is empty and stays where it is
    refine locate?_append ?_ hname
    have hpieces : Segment.pieces '/' (path ++ "/") = Segment.pieces '/' path ++ [""] := by
      rw [← String.append_empty (s := path ++ "/")]
      exact Segment.pieces_append path ""
    rw [locate?, hpieces, List.foldlM_append] at h
    obtain ⟨here, hhere, hstep⟩ := Option.bind_eq_some_iff.1 h
    rw [List.foldlM_cons] at hstep
    obtain ⟨next, hnext, hlast⟩ := Option.bind_eq_some_iff.1 hstep
    obtain rfl : here = place := (step?_eq_some_iff.1 hnext).2.1.symm.trans (Option.some.inj hlast)
    exact hhere
  next => exact locate?_append h hname

/-- Whether a directory has a file for a model: one with a name before the extension. -/
structure HasModelFile (f : Files) (place : List String) (name : String) : Prop where
  named : name ≠ ""
  plain : '/' ∉ name.toList
  present : (f.at? (place ++ [name ++ ".json"])).isSome = true

/-- Whether a model can be made of the file of a name: it is a text, a document, and well formed. -/
def HoldsModel (f : Files) (place : List String) (name : String) : Prop :=
  ∃ text declared, f.at? (place ++ [name ++ ".json"]) = some (.text text) ∧ Metadata.parse? text = some declared ∧
    declared.WellFormed

/-- The source of the model of a file. -/
def sourceIn (directory name : String) : String :=
  "file://" ++ pathIn directory (name ++ ".json")

/-- The name of a file with the extension leads on to the file. -/
theorem onward_extension (place : List String) (name : String) :
    onward place (name ++ ".json") = place ++ [name ++ ".json"] := by
  have hlong : ∀ short : String, short.length < 5 → name ++ ".json" ≠ short := by
    intro short hshort heq
    have hlength := congrArg String.length heq
    rw [String.length_append, show ".json".length = 5 from rfl] at hlength
    omega
  have hgoes : stays (name ++ ".json") = false := by
    simp [stays, hlong "" (by decide), hlong "." (by decide)]
  rw [onward, hgoes, if_neg Bool.false_ne_true, if_neg (hlong ".." (by decide))]

/-- What is in the file of a model is read under its path. -/
theorem read?_pathIn (h : f.locate? directory = some place) (hplace : f.at? place = some .directory)
    (hfile : f.HasModelFile place name) (text : String) :
    f.read? (pathIn directory (name ++ ".json")) = some text ↔
      f.at? (place ++ [name ++ ".json"]) = some (.text text) := by
  have hplain : '/' ∉ (name ++ ".json").toList := by
    rw [String.toList_append]
    exact List.not_mem_append hfile.plain (by decide)
  have hstep : f.step? place (name ++ ".json") = some (place ++ [name ++ ".json"]) :=
    step?_eq_some_iff.2 ⟨hplace, (onward_extension place name).symm, hfile.present⟩
  rw [read?, locate?_pathIn h hplain, hstep]
  change ((f.at? (place ++ [name ++ ".json"])).bind fun e => _) = some text ↔ _
  rw [Option.bind_eq_some_iff]
  constructor
  · rintro ⟨entry, hentry, htext⟩
    cases entry with
    | text s => rw [hentry, Option.some.inj htext]
    | directory => cases htext
  · exact fun hentry => ⟨_, hentry, rfl⟩

theorem readSource_eq_ok_iff {path text : String} :
    f.readSource ("file://" ++ path) = .ok text ↔ f.read? path = some text := by
  have hpath : filePath? ("file://" ++ path) = some path := by
    have hafter : Segment.after? fileMark.toList ("file://" ++ path).toList = some path.toList :=
      Segment.after?_eq_some_iff.2 (String.toList_append ..)
    rw [filePath?, hafter, Option.map_some, String.ofList_toList]
  rw [readSource, hpath]
  dsimp only
  cases f.read? path with
  | none => exact ⟨nofun, nofun⟩
  | some s => rw [Except.ok.injEq, Option.some.injEq]

/-- The model of a file is made of what the file says. -/
theorem load_sourceIn_iff (h : f.locate? directory = some place) (hplace : f.at? place = some .directory)
    (hfile : f.HasModelFile place name) (m : Model) :
    Model.load f (sourceIn directory name) name = .ok m ↔
      ∃ text declared, f.at? (place ++ [name ++ ".json"]) = some (.text text) ∧ Metadata.parse? text = some declared ∧
        Model.resolve name (sourceIn directory name) declared = .ok m := by
  simp only [Model.load_eq_ok_iff, sourceIn, readSource_eq_ok_iff, read?_pathIn h hplace hfile]

/-- There is one exactly when the file holds a model. -/
theorem exists_load_iff (h : f.locate? directory = some place) (hplace : f.at? place = some .directory)
    (hfile : f.HasModelFile place name) :
    (∃ m, Model.load f (sourceIn directory name) name = .ok m) ↔ f.HoldsModel place name := by
  simp only [load_sourceIn_iff h hplace hfile]
  constructor
  · rintro ⟨m, text, declared, htext, hdeclared, hm⟩
    exact ⟨text, declared, htext, hdeclared, Model.exists_resolve_iff.1 ⟨m, hm⟩⟩
  · rintro ⟨text, declared, htext, hdeclared, hwell⟩
    obtain ⟨m, hm⟩ := Model.exists_resolve_iff.2 hwell
    exact ⟨m, text, declared, htext, hdeclared, hm⟩

theorem sorted_sortedNames (names : List String) : (sortedNames names).Pairwise (· < ·) :=
  Assoc.sorted_sortedByKey _

theorem mem_sortedNames_iff {names : List String} : name ∈ sortedNames names ↔ name ∈ names := by
  rw [sortedNames, Assoc.mem_keys_sortedByKey, List.map_map]
  simp

/-- The models of a directory are loaded one after the other, in the order of the files. -/
theorem loadDirectory_eq (h : f.locate? directory = some place) (hplace : f.at? place = some .directory) :
    ∃ names : List String, names.Pairwise (fun s t => s ++ ".json" < t ++ ".json") ∧
      (∀ name, name ∈ names ↔ f.HasModelFile place name) ∧
      f.loadDirectory directory = names.mapM fun name => Model.load f (sourceIn directory name) name := by
  have hlisted : f.names? directory = some (f.entries.keys.filterMap (nameIn? place)) := by
    rw [names?, h]
    change ((f.at? place).bind fun e => _) = _
    rw [hplace, Option.bind_some, if_pos rfl]
  refine ⟨(sortedNames (f.entries.keys.filterMap (nameIn? place))).filterMap modelNameOf?, ?_, fun name => ?_, ?_⟩
  · refine (sorted_sortedNames _).filterMap _ fun s t hst a ha b hb => ?_
    rwa [← (modelNameOf?_eq_some_iff.1 ha).2, ← (modelNameOf?_eq_some_iff.1 hb).2]
  · have hlisted : ∀ file, file ∈ sortedNames (f.entries.keys.filterMap (nameIn? place)) ↔
        '/' ∉ file.toList ∧ (f.at? (place ++ [file])).isSome = true :=
      fun _ => mem_sortedNames_iff.trans (mem_filterMap_nameIn?_iff (plain_of_locate? h))
    simp only [List.mem_filterMap, modelNameOf?_eq_some_iff, hlisted]
    constructor
    · rintro ⟨file, ⟨hplain, hpresent⟩, hnamed, rfl⟩
      rw [String.toList_append] at hplain
      exact ⟨hnamed, fun hmem => hplain (List.mem_append_left _ hmem), hpresent⟩
    · rintro ⟨hnamed, hplain, hpresent⟩
      refine ⟨_, ⟨?_, hpresent⟩, hnamed, rfl⟩
      rw [String.toList_append]
      exact List.not_mem_append hplain (by decide)
  · have hfound : ∀ files : List String,
        (files.filterMap fun file => (modelNameOf? file).map fun name => (name, fileMark ++ pathIn directory file)) =
          (files.filterMap modelNameOf?).map fun name => (name, sourceIn directory name) := by
      intro files
      rw [List.map_filterMap]
      refine List.filterMap_congr fun file _ => ?_
      cases hname : modelNameOf? file with
      | none => rfl
      | some name =>
        rw [(modelNameOf?_eq_some_iff.1 hname).2]
        rfl
    rw [loadDirectory, hlisted]
    dsimp only
    rw [hfound, List.mapM_map]
    rfl

/-- Names in the order of their files are in order themselves, unless one goes on from another with less than the
extension. -/
theorem sorted_iff {names : List String} (h : names.Pairwise fun s t => s ++ ".json" < t ++ ".json") :
    names.Pairwise (· < ·) ↔
      ∀ name more, name ∈ names → name ++ more ∈ names → more ≠ "" → ".json" ≤ more := by
  constructor
  · intro hsorted name more hname hlonger hne
    refine String.not_lt.1 fun hless => ?_
    obtain ⟨hlt, hfile⟩ := append_lt_of_lt (t := name) hne hless
    have hother : name ≠ name ++ more := by
      intro heq
      rw [← heq] at hlt
      exact String.lt_irrefl name hlt
    -- of the two names one comes first, and then either the names or the files are out of order
    have hboth : names.Pairwise fun s t : String =>
        s ++ ".json" < t ++ ".json" ∧ s < t ∨ t ++ ".json" < s ++ ".json" ∧ t < s := (h.and hsorted).imp Or.inl
    have : Std.Symm fun s t : String =>
        s ++ ".json" < t ++ ".json" ∧ s < t ∨ t ++ ".json" < s ++ ".json" ∧ t < s := ⟨fun _ _ => Or.symm⟩
    rcases hboth.forall hname hlonger hother with hfirst | hsecond
    · exact String.lt_asymm hfile hfirst.1
    · exact String.lt_asymm hlt hsecond.2
  · intro hnone
    refine List.Pairwise.imp_of_mem (fun {s t} hs ht hst => ?_) h
    rcases lt_of_append_lt hst with hlt | ⟨more, hne, rfl, hless⟩
    · exact hlt
    · exact absurd hless (String.not_lt.2 (hnone t more ht hs hne))

theorem map_of_mapM_eq_ok {α β ε : Type} {g : α → Except ε β} {key : β → α} (hkey : ∀ a b, g a = .ok b → key b = a)
    {items : List α} {results : List β} (h : items.mapM g = .ok results) : results.map key = items := by
  induction items generalizing results with
  | nil =>
    rw [List.mapM_nil] at h
    rw [ok_eq_ok_iff.1 h]
    rfl
  | cons a items ih =>
    rw [List.mapM_cons] at h
    obtain ⟨b, hb, h⟩ := bind_eq_ok_iff.1 h
    obtain ⟨rest, hrest, h⟩ := bind_eq_ok_iff.1 h
    rw [ok_eq_ok_iff.1 h, List.map_cons, hkey a b hb, ih hrest]

/-- What is loaded from a directory. -/
structure Loaded (f : Files) (directory : String) (place : List String) (models : List Model) : Prop where
  /-- There is one model for every file, with the name of the file. -/
  names : ∀ name, name ∈ models.map Model.name ↔ f.HasModelFile place name
  once : (models.map Model.name).Nodup
  /-- It comes from the path of the file. -/
  sources : ∀ m ∈ models, m.source = "file://" ++ pathIn directory (m.name ++ ".json")
  /-- It is made of what the file says. -/
  made : ∀ m ∈ models, ∃ text declared, f.at? (place ++ [m.name ++ ".json"]) = some (.text text) ∧
    Metadata.parse? text = some declared ∧ Model.resolve m.name m.source declared = .ok m
  /-- The models stand in the order of the files. -/
  files : (models.map fun m => m.name ++ ".json").Pairwise (· < ·)
  /-- This is the order of their names, unless one name goes on from another with less than the extension. -/
  sorted : (models.map Model.name).Pairwise (· < ·) ↔
    ∀ name more, f.HasModelFile place name → f.HasModelFile place (name ++ more) → more ≠ "" → ".json" ≤ more

/-- When every file for a model holds one, all of them are loaded, and otherwise none is. -/
theorem directory_loaded (h : f.locate? directory = some place) (hplace : f.at? place = some .directory) :
    ((∀ name, f.HasModelFile place name → f.HoldsModel place name) →
        ∃ models, f.loadDirectory directory = .ok models ∧ f.Loaded directory place models) ∧
      ((∃ name, f.HasModelFile place name ∧ ¬ f.HoldsModel place name) →
        ∃ problem, f.loadDirectory directory = .error problem) := by
  obtain ⟨names, hfiles, hnames, hload⟩ := loadDirectory_eq h hplace
  rw [hload]
  constructor
  · intro hall
    obtain ⟨models, hmodels⟩ := Model.exists_mapM_eq_ok_iff.2 fun name hname =>
      (exists_load_iff h hplace ((hnames name).1 hname)).2 (hall name ((hnames name).1 hname))
    have hmap : models.map Model.name = names :=
      map_of_mapM_eq_ok (fun _ _ hm => (Model.name_source_of_load hm).1) hmodels
    refine ⟨models, hmodels, ⟨fun name => ?_, ?_, fun m hm => ?_, fun m hm => ?_, ?_, ?_⟩⟩
    · rw [hmap, hnames]
    · rw [hmap]
      refine hfiles.imp fun {s t} hst => ?_
      rintro rfl
      exact String.lt_irrefl _ hst
    · obtain ⟨name, -, hloaded⟩ := exists_of_mem_mapM hmodels hm
      obtain ⟨rfl, hsource⟩ := Model.name_source_of_load hloaded
      exact hsource
    · obtain ⟨name, hname, hloaded⟩ := exists_of_mem_mapM hmodels hm
      obtain ⟨rfl, hsource⟩ := Model.name_source_of_load hloaded
      rw [hsource]
      exact (load_sourceIn_iff h hplace ((hnames _).1 hname) m).1 hloaded
    · rw [← hmap, List.pairwise_map] at hfiles
      rwa [List.pairwise_map]
    · rw [hmap, sorted_iff hfiles]
      simp only [hnames]
  · rintro ⟨name, hname, hholds⟩
    cases hresult : names.mapM fun name => Model.load f (sourceIn directory name) name with
    | error problem => exact ⟨problem, rfl⟩
    | ok models =>
      obtain ⟨m, -, hm⟩ := exists_of_mapM_eq_ok hresult ((hnames name).2 hname)
      exact absurd ((exists_load_iff h hplace hname).1 ⟨m, hm⟩) hholds

end Files

namespace Sample

/-- The text of the least model. -/
def leastModel : String :=
  "\x7b\"table\":\x7b\"name\":\"t\"\x7d\x7d"

/-- A directory with the files of two models, of which one has a longer name, and with files of none. -/
def modelFiles : Files :=
  ⟨[("m", .directory), ("m/a.json", .text leastModel), ("m/.json", .text ""), ("m/a-b.json", .text leastModel)]⟩

/-- The same directory with a file that holds no model. -/
def brokenFiles : Files :=
  ⟨("m/b.json", .text "") :: modelFiles.entries⟩

theorem eq_ok_of_toOption {ε α : Type} {x : Except ε α} {a : α} (h : x.toOption = some a) : x = .ok a := by
  cases x with
  | error _ => cases h
  | ok b =>
    cases h
    rfl

theorem hasModelFile_modelFiles {name : String} (h : modelFiles.HasModelFile ["m"] name) :
    name = "a" ∨ name = "a-b" := by
  have hkey : "m/" ++ (name ++ ".json") ∈ ["m", "m/" ++ ("a" ++ ".json"), "m/" ++ ("" ++ ".json"),
      "m/" ++ ("a-b" ++ ".json")] := by
    by_contra hnot
    have hpresent : (modelFiles.entries.get? ("m/" ++ (name ++ ".json"))).isSome = true := h.present
    rw [Assoc.get?_eq_none_iff.2 hnot] at hpresent
    cases hpresent
  simp only [List.mem_cons, String.append_right_inj, String.append_left_inj, List.not_mem_nil, or_false] at hkey
  rcases hkey with hshort | hname | hempty | hname
  · have hlength := congrArg String.length hshort
    rw [String.length_append, String.length_append, show "m/".length = 2 from rfl,
      show "m".length = 1 from rfl] at hlength
    omega
  · exact Or.inl hname
  · exact absurd hempty h.named
  · exact Or.inr hname

theorem holdsModel_modelFiles (name : String) (h : modelFiles.HasModelFile ["m"] name) :
    modelFiles.HoldsModel ["m"] name := by
  have hresolves : ((Metadata.parse? leastModel).bind fun d => (Model.resolve "" "" d).toOption).isSome = true := by
    decide +kernel
  obtain ⟨m, hm⟩ := Option.isSome_iff_exists.1 hresolves
  obtain ⟨declared, hdeclared, hm⟩ := Option.bind_eq_some_iff.1 hm
  have hwell : declared.WellFormed := Model.exists_resolve_iff.1 ⟨m, eq_ok_of_toOption hm⟩
  rcases hasModelFile_modelFiles h with rfl | rfl
  · exact ⟨leastModel, declared, rfl, hdeclared, hwell⟩
  · exact ⟨leastModel, declared, rfl, hdeclared, hwell⟩

/-- All models of the directory are loaded, and none when one of the files is broken. -/
theorem modelFiles_loaded :
    (∃ models, modelFiles.loadDirectory "m" = .ok models ∧ modelFiles.Loaded "m" ["m"] models) ∧
      ∃ problem, brokenFiles.loadDirectory "m" = .error problem := by
  have hbroken : brokenFiles.HasModelFile ["m"] "b" ∧ ¬ brokenFiles.HoldsModel ["m"] "b" := by
    refine ⟨⟨by decide, by decide, by decide⟩, ?_⟩
    rintro ⟨text, declared, htext, hdeclared, -⟩
    have hempty : brokenFiles.at? (["m"] ++ ["b" ++ ".json"]) = some (.text "") := rfl
    obtain rfl : "" = text := by simpa using hempty.symm.trans htext
    have hnone : Metadata.parse? "" = none := by decide +kernel
    rw [hnone] at hdeclared
    cases hdeclared
  exact ⟨(Files.directory_loaded (by decide) (by decide)).1 holdsModel_modelFiles,
    (Files.directory_loaded (by decide) (by decide)).2 ⟨"b", hbroken⟩⟩

/-- Two files that hold models are loaded in the order of the files. -/
theorem hyphenated_name_before_shorter :
    (∀ name, modelFiles.HasModelFile ["m"] name → modelFiles.HoldsModel ["m"] name) ∧
      ∃ models, modelFiles.loadDirectory "m" = .ok models ∧ models.map Model.name = ["a-b", "a"] ∧
        ¬ (models.map Model.name).Pairwise (· < ·) := by
  have hnames : (modelFiles.loadDirectory "m").toOption.map (fun models => models.map Model.name) =
      some ["a-b", "a"] := by
    decide +kernel
  obtain ⟨models, hmodels, hnames⟩ := Option.map_eq_some_iff.1 hnames
  refine ⟨holdsModel_modelFiles, models, eq_ok_of_toOption hmodels, hnames, ?_⟩
  rw [hnames]
  decide

end Sample

end DataModel

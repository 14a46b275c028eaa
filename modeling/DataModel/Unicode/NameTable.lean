import DataModel.CharSet

/-! The names of properties and of their values are compared without case, blanks, hyphens and underscores; the
tables hold them in that plain form. -/

namespace DataModel.Unicode

/-- Sets of characters, each under the plain names it has. -/
abbrev NameTable := List (List String × CharSet)

/-- The set of a plain name. -/
def NameTable.get? (t : NameTable) (name : String) : Option CharSet :=
  (t.find? fun e => e.1.contains name).map Prod.snd

/-- The characters of some of the sets of a table. -/
def NameTable.among (t : NameTable) (names : List String) : CharSet :=
  .unions (names.filterMap t.get?)

end DataModel.Unicode

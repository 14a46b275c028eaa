import DataModel.Unicode.Age
import DataModel.Unicode.Derived
import DataModel.Unicode.Script
import DataModel.Unicode.ScriptExtension

/-! A property is named alone when a character has it or has it not, and so are general categories and scripts. A
property with values is named together with one of them. -/

namespace DataModel.Unicode

/-- The letters of a name that are compared. -/
def plainLetters (cs : List Char) : List Char :=
  (cs.filter fun c => c.toNat < 128 && !(c = ' ' || c = '-' || c = '_')).map Char.toLower

/-- What is compared of a name: no leading `is`, no case, blanks, hyphens and underscores, and ASCII
only. `isc` is a name of its own. -/
def plainName (name : String) : String :=
  match name.toList with
  | i :: s :: rest =>
    if i.toLower = 'i' ∧ s.toLower = 's' then
      if plainLetters rest = ['c'] then "isc" else String.ofList (plainLetters rest)
    else String.ofList (plainLetters name.toList)
  | cs => String.ofList (plainLetters cs)

/-- Groups of categories, and what is not a category of assigned characters. -/
def categoryGroups : NameTable :=
  [(["l", "letter"], inCategories letters), (["lc", "casedletter"], inCategories ["lu", "ll", "lt"]),
   (["m", "mark", "combiningmark"], inCategories marks),
   (["n", "number"], inCategories ["nd", "nl", "no"]),
   (["p", "punctuation", "punct"], inCategories ["pc", "pd", "ps", "pe", "pi", "pf", "po"]),
   (["s", "symbol"], inCategories ["sm", "sc", "sk", "so"]),
   (["z", "separator"], inCategories ["zs", "zl", "zp"]),
   (["c", "other"], .unions [inCategories ["cc", "cf", "co"], unassigned]),
   (["cn", "unassigned"], unassigned), (["any"], .all), (["assigned"], .compl unassigned),
   (["ascii"], .between 0 127)]

/-- A general category or a group of them by plain name. -/
def category? (name : String) : Option CharSet :=
  categories.get? name <|> categoryGroups.get? name

/-- A property that a character has or has not, by plain name. -/
def binary? (name : String) : Option CharSet :=
  derived.get? name <|> properties.get? name <|> caseChanges.get? name

/-- The characters that a version of the standard has, by the plain name of the version. -/
def age? (name : String) : Option CharSet :=
  match additions.findIdx? fun e => e.1.contains name with
  | some i => some (.unions ((additions.take (i + 1)).map Prod.snd))
  | none => none

/-- The characters for which a property has a value. -/
def valued? (property value : String) : Option CharSet :=
  let value := plainName value
  match plainName property with
  | "generalcategory" | "gc" => category? value
  | "script" | "sc" => scripts.get? value
  | "scriptextensions" | "scx" => scriptExtensions.get? value <|> scripts.get? value
  | "age" => age? value
  | "graphemeclusterbreak" | "gcb" => graphemeBreaks.get? value
  | "wordbreak" | "wb" => wordBreaks.get? value
  | "sentencebreak" | "sb" => sentenceBreaks.get? value
  | _ => none

/-- The characters with a property: one that a character has or has not, a general category or a
script. Three short names are those of categories, although properties have them too. -/
def property? (name : String) : Option CharSet :=
  let n := plainName name
  let first := if n = "cf" ∨ n = "sc" ∨ n = "lc" then none else binary? n
  first <|> category? n <|> scripts.get? n

end DataModel.Unicode

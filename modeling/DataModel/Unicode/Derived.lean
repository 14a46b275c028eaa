import DataModel.Text.Blank
import DataModel.Unicode.Boundary
import DataModel.Unicode.Category
import DataModel.Unicode.Property

/-! Properties that follow from the general categories and the listed properties. -/

namespace DataModel.Unicode

open CharSet (unions)

/-- The characters of some categories, given by plain two-letter names. -/
def inCategories (names : List String) : CharSet :=
  categories.among names

/-- The characters of a listed property. -/
def listed (name : String) : CharSet :=
  properties.among [name]

/-- The code points that no character is assigned to. -/
def unassigned : CharSet :=
  .compl (unions (categories.map Prod.snd))

/-- White space. -/
def blank : CharSet :=
  .ofSpans (Blank.ranges.map fun r => ⟨r.1, r.2⟩)

/-- Letters of every kind. -/
def letters : List String :=
  ["lu", "ll", "lt", "lm", "lo"]

/-- Marks of every kind. -/
def marks : List String :=
  ["mn", "mc", "me"]

/-- Lower-case characters. -/
def lowercase : CharSet :=
  unions [inCategories ["ll"], listed "olower"]

/-- Upper-case characters. -/
def uppercase : CharSet :=
  unions [inCategories ["lu"], listed "oupper"]

/-- Characters with case. -/
def cased : CharSet :=
  unions [lowercase, uppercase, inCategories ["lt"]]

/-- Letters and what counts as such. -/
def alphabetic : CharSet :=
  unions [lowercase, uppercase, inCategories ["lt", "lm", "lo", "nl"], listed "oalpha"]

/-- Letters and numbers of every kind. -/
def alphanumeric : CharSet :=
  unions [alphabetic, inCategories ["nd", "nl", "no"]]

/-- What words consist of: letters, marks, digits, connectors and joiners. -/
def word : CharSet :=
  unions [alphabetic, inCategories (marks ++ ["nd", "pc"]), listed "joinc"]

/-- A set without the characters that have a fixed meaning in patterns. -/
def withoutSyntax (s : CharSet) : CharSet :=
  s.difference (unions [listed "patsyn", listed "patws"])

/-- What an identifier may start with. -/
def identifierStart : CharSet :=
  withoutSyntax (unions [inCategories (letters ++ ["nl"]), listed "oids"])

/-- What an identifier may consist of. -/
def identifierPart : CharSet :=
  withoutSyntax (unions [identifierStart, inCategories ["mn", "mc", "nd", "pc"], listed "oidc"])

/-- Characters whose compatibility form begins with something else than a part of an identifier. -/
def unstablePart : CharSet :=
  .ofText "37a 309b-309c fc5e-fc63 fdfa-fdfb fe70-fe7e/2"

/-- Characters whose compatibility form begins with something that only continues an identifier. -/
def unstableStart : CharSet :=
  unions [unstablePart, .ofText "e33 eb3 ff9e-ff9f"]

/-- Characters that extend what they stand on. -/
def graphemeExtend : CharSet :=
  unions [inCategories ["me", "mn"], listed "ogrext"]

/-- Characters that can stand on their own. -/
def graphemeBase : CharSet :=
  .compl (unions [inCategories ["cc", "cf", "co", "zl", "zp"], unassigned, graphemeExtend])

/-- Characters between which and their neighbours case does not look. -/
def caseIgnorable : CharSet :=
  unions [inCategories ["mn", "me", "cf", "lm", "sk"],
    wordBreaks.among ["midletter", "midnumlet", "singlequote"]]

/-- Format characters that are shown all the same. -/
def shownFormats : CharSet :=
  unions [blank, listed "pcm", .ofText "fff9-fffb 13430-13440"]

/-- Characters that are not shown where they are not known. -/
def defaultIgnorable : CharSet :=
  (unions [listed "odi", inCategories ["cf"], listed "vs"]).difference shownFormats

/-- The derived properties under their plain names. -/
def derived : NameTable :=
  [(["alpha", "alphabetic"], alphabetic), (["lower", "lowercase"], lowercase),
   (["upper", "uppercase"], uppercase), (["cased"], cased), (["ci", "caseignorable"], caseIgnorable),
   (["cwcm", "changeswhencasemapped"], caseChanges.among ["cwl", "cwt", "cwu"]),
   (["wspace", "whitespace", "space"], blank),
   (["ahex", "asciihexdigit"], .ofText "30-39 41-46 61-66"),
   (["math"], unions [inCategories ["sm"], listed "omath"]),
   (["ids", "idstart"], identifierStart), (["idc", "idcontinue"], identifierPart),
   (["xids", "xidstart"], identifierStart.difference unstableStart),
   (["xidc", "xidcontinue"], identifierPart.difference unstablePart),
   (["grbase", "graphemebase"], graphemeBase), (["grext", "graphemeextend"], graphemeExtend),
   (["di", "defaultignorablecodepoint"], defaultIgnorable)]

end DataModel.Unicode

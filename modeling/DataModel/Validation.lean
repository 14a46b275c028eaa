import DataModel.Calendar
import DataModel.Model
import DataModel.Pattern.Machine
import DataModel.Text.Uuid
import DataModel.Validation.Errors
import DataModel.Value.Order

/-! A row is checked against the columns of a model: every value against the type of its column and the rules
declared for it. All failures are reported, not only the first. -/

namespace DataModel

/-- A broken rule. -/
inductive Violation where
  | missing
  | null
  | wrongType (kind : Kind) (value : Value)
  | tooLong (limit : Nat)
  | tooShort (limit : Nat)
  | noneOf (shown : List String)
  | badFormat (format : String)
  | noMatch
  | below (limit : Binary64)
  | above (limit : Binary64)

namespace Violation

/-- The text of a broken rule. -/
def message : Violation → String
  | missing => "is required"
  | null => "must not be null"
  | wrongType kind value => "expects " ++ kind.name ++ ", got " ++ value.typeName
  | tooLong limit => "must be at most " ++ Numeral.natText limit ++ " characters"
  | tooShort limit => "must be at least " ++ Numeral.natText limit ++ " characters"
  | noneOf shown => "must be one of: " ++ Segment.join ", " shown
  | badFormat format => "must be a valid " ++ format
  | noMatch => "does not match required pattern"
  | below limit => "must be at least " ++ limit.plainText
  | above limit => "must be at most " ++ limit.plainText

end Violation

namespace Kind

/-- Whether a value can be stored under a kind. -/
def accepts (kind : Kind) (v : Value) : Bool :=
  match kind, v with
  | .json, _ => true
  | .boolean, .bool _ => true
  | .uuid, .text s => Uuid.isUuid s
  | .date, .text s => Calendar.isDate s
  | .dateTime, .text s | .timestamp, .text s => Calendar.isMoment s
  | .time, .text s => Calendar.isTime s
  | k, .int _ => k.isNumeric
  | k, .float x => k.isNumeric && (!k.isInteger || x.isIntegral)
  | k, .text _ => k.isTextual
  | _, _ => false

end Kind

namespace Format

/-- Whether a text is an address: something before the first `@`, and after it a name with a point
that neither starts nor ends with one. -/
def isEmail (s : String) : Bool :=
  let cs := s.toList
  let domain := (cs.dropWhile (· ≠ '@')).drop 1
  cs.head? ≠ some '@' && domain.contains '.' && domain.head? ≠ some '.' && domain.getLast? ≠ some '.'

/-- Whether a text is a telephone number: seven to fifteen digits, possibly after a plus. -/
def isMobile (s : String) : Bool :=
  let digits :=
    match s.toList with
    | '+' :: cs => cs
    | cs => cs
  7 ≤ digits.length && digits.length ≤ 15 && digits.all Char.isDigit

/-- Whether a text has a format; formats that are not known accept all. -/
def accepts (format s : String) : Bool :=
  match format with
  | "email" => isEmail s
  | "uuid" => Uuid.isUuid s
  | "mobile" => isMobile s
  | _ => true

end Format

/-- How many of the allowed values a text shows. -/
def shownValues : Nat :=
  5

/-- A violation when a condition holds. -/
def violatedIf (broken : Bool) (v : Violation) : List Violation :=
  if broken then [v] else []

/-- A text longer than a limit, if there is one. -/
def tooLongFor (limit : Option Nat) (text : Option String) : List Violation :=
  match limit, text with
  | some n, some s => violatedIf (n < s.length) (.tooLong n)
  | _, _ => []

namespace Rule

/-- The format of a rule and a text. -/
def formatViolations (format : Option String) (text : Option String) : List Violation :=
  match format, text with
  | some f, some s =>
    let f := Segment.lower f
    violatedIf (!Format.accepts f s) (.badFormat f)
  | _, _ => []

/-- A text shorter than a limit, if there is one. -/
def tooShortFor (limit : Option Nat) (text : Option String) : List Violation :=
  match limit, text with
  | some n, some s => violatedIf (s.length < n) (.tooShort n)
  | _, _ => []

/-- A text and the pattern it has to match, if there is one. -/
def patternViolations (pattern : Option Pattern) (text : Option String) : List Violation :=
  match pattern, text with
  | some p, some s => violatedIf (!p.matchesIn s) .noMatch
  | _, _ => []

/-- The values of which a value has to be one, if there are some. -/
def allowedViolations (allowed : Option (List Value)) (v : Value) : List Violation :=
  match allowed with
  | some vs => violatedIf (!vs.any v.looseEq) (.noneOf ((vs.take shownValues).map Value.display))
  | none => []

/-- The bounds of a number, if there are some. -/
def boundViolations (minimum maximum : Option Binary64) (number : Option Binary64) : List Violation :=
  match number with
  | none => []
  | some x =>
    (match minimum with
     | some low => violatedIf (x.below low) (.below low)
     | none => []) ++
    (match maximum with
     | some high => violatedIf (high.below x) (.above high)
     | none => [])

/-- The declared rules a value breaks. -/
def violations (r : Rule) (pattern : Option Pattern) (v : Value) : List Violation :=
  formatViolations r.format v.text? ++ tooLongFor r.maxLength v.text? ++ tooShortFor r.minLength v.text? ++
    patternViolations pattern v.text? ++ allowedViolations r.allowed v ++
    boundViolations r.minimum r.maximum v.real?

end Rule

namespace Column

/-- The options of an enum column and a text. -/
def optionViolations (c : Column) (text : Option String) : List Violation :=
  match text with
  | some s =>
    violatedIf (c.kind = .enum && !c.options.isEmpty && !c.options.contains s) (.noneOf c.options)
  | none => []

/-- The rules a value that is not null breaks. A value of the wrong type breaks no other rule. -/
def violations (c : Column) (v : Value) : List Violation :=
  if c.kind.accepts v then
    tooLongFor c.kind.maxLength v.text? ++ c.optionViolations v.text? ++
      (match c.rule with
       | some r => r.violations c.pattern v
       | none => [])
  else [.wrongType c.kind v]

end Column

namespace Model

/-- Whether a column is filled in when a row is inserted. -/
def isGenerated (m : Model) (c : Column) : Bool :=
  c.implicit || (c.name = m.primaryKey && c.kind = .id)

/-- The rules that the absence of a value breaks in a row to be inserted. -/
def absenceViolations (m : Model) (c : Column) : List Violation :=
  if c.isRequired then [.missing]
  else violatedIf (!c.nullable && c.default.isNone && !m.isGenerated c) .null

/-- The rules a column of a row to be inserted breaks. -/
def columnViolations (m : Model) (c : Column) (row : Record) : List Violation :=
  match row.cell c.name with
  | .null => m.absenceViolations c
  | v => c.violations v

/-- The rules a cell of a row to be changed breaks. -/
def cellViolations (c : Column) (v : Value) : List Violation :=
  match v with
  | .null => if c.isRequired then [.missing] else violatedIf (!c.nullable) .null
  | v => c.violations v

/-- The failures of a row to be inserted: what is required has to be there. -/
def validate (m : Model) (row : Record) : ValidationErrors :=
  m.columns.foldl
    (fun errors c => ValidationErrors.pushAll errors c.name ((m.columnViolations c row).map Violation.message)) []

/-- The failures of the cells of a row to be changed: what is missing is left alone, and columns that
the model does not have are not looked at. -/
def validatePartial (m : Model) (row : Record) : ValidationErrors :=
  row.foldl
    (fun errors e =>
      match m.column? e.1 with
      | some c => ValidationErrors.pushAll errors c.name ((cellViolations c e.2).map Violation.message)
      | none => errors) []

end Model

end DataModel

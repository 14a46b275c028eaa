import DataModel.Column.Kind
import DataModel.Metadata
import DataModel.Model.Error
import DataModel.Pattern.Reader

namespace DataModel

/-- A column of a model. An implicit one was not declared but added. -/
structure Column where
  name : String
  kind : Kind
  nullable : Bool
  default : Option Value
  unique : Bool
  index : Bool
  crypt : Option Crypt
  options : List String
  rule : Option Rule
  pattern : Option Pattern
  comment : Option String
  implicit : Bool

namespace Column

/-- The pattern of a rule, `none` within when the rule has none. -/
def patternOf? (rule : Option Rule) : Option (Option Pattern) :=
  match rule.bind Rule.pattern with
  | none => some none
  | some text => (Pattern.parse? text).map some

/-- The column of a declaration. The type is looked at before the pattern. -/
def ofDeclaration (c : ColumnDeclaration) (implicit : Bool) : Except ParseProblem Column :=
  match Kind.ofType? c.type c.length c.precision c.scale with
  | none => .error (.unknownType c.name c.type)
  | some kind =>
    match patternOf? c.rule with
    | none => .error (.pattern c.name)
    | some pattern =>
      .ok
        { name := c.name
          kind, pattern, implicit
          nullable := c.nullable
          default := c.default
          unique := c.unique
          index := c.index
          crypt := c.crypt
          options := c.options
          rule := c.rule
          comment := c.comment }

/-- Whether values are hashed before they are written. -/
def isPassword (c : Column) : Bool :=
  c.crypt = some .password || c.kind = .password

/-- Whether a rule demands a value. -/
def isRequired (c : Column) : Bool :=
  c.rule.bind Rule.required = some true

end Column

end DataModel

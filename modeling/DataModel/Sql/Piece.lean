import DataModel.Value.Json

/-!
# Pieces of SQL text

A statement is a list of pieces: words of the language, names, string literals and parameters. Names
stand between double quotes with inner double quotes written twice, string literals between single
quotes with inner single quotes written twice; so neither can end early. Parameters are numbered from
one in the order in which they stand.
-/

namespace DataModel.Sql

/-- A name between double quotes. -/
def quotedName (name : String) : String :=
  String.ofList ('"' :: (Segment.doubling '"' name.toList ++ ['"']))

/-- A string literal between single quotes. -/
def quotedText (s : String) : String :=
  String.ofList ('\'' :: (Segment.doubling '\'' s.toList ++ ['\'']))

/-- A piece of a statement. -/
inductive Piece where
  /-- Keywords, operators, punctuation and blanks. -/
  | word (s : String)
  | name (s : String)
  | literal (s : String)
  /-- A parameter and the type it is cast to. -/
  | param (value : Value) (cast : Option String)

/-- A statement as pieces in order. -/
abbrev Statement := List Piece

/-- The text of the parameter with a number. -/
def placeholder (number : Nat) : Option String → String
  | none => "$" ++ Numeral.natText number
  | some cast => "$" ++ Numeral.natText number ++ "::" ++ cast

/-- The text of a statement whose first parameter has the given number. -/
def Statement.textFrom : Nat → Statement → String
  | _, [] => ""
  | n, .word s :: ps => s ++ textFrom n ps
  | n, .name s :: ps => quotedName s ++ textFrom n ps
  | n, .literal s :: ps => quotedText s ++ textFrom n ps
  | n, .param _ cast :: ps => placeholder n cast ++ textFrom (n + 1) ps

/-- The text of a statement. -/
def Statement.text (s : Statement) : String :=
  s.textFrom 1

/-- The values of the parameters in order. -/
def Statement.params : Statement → List Value
  | [] => []
  | .param v _ :: ps => v :: params ps
  | _ :: ps => params ps

/-- Lists of pieces with a word between them. -/
def joined (sep : String) : List Statement → Statement
  | [] => []
  | [s] => s
  | s :: t :: rest => s ++ .word sep :: joined sep (t :: rest)

/-- A table of a schema. -/
def qualified (schema table : String) : Statement :=
  [.name schema, .word ".", .name table]

end DataModel.Sql

import DataModel.Text.Numeral

namespace DataModel

/-- Which rule of a table an operation would break. -/
inductive Constraint where
  | nullCell (table column : String)
  | duplicateKey (table column key : String)
  | rowLength (table : String) (values columns : Nat)
  | nullsPresent (table column : String)
  | valuesTooLong (table column : String) (limit : Nat)
  | nothingToFill (table column : String)
  | other (text : String)
deriving DecidableEq, Repr

/-- Why an operation of the store was refused. -/
inductive StoreError where
  | database (text : String)
  | missingTable (table : String)
  | unknownColumn (table column : String)
  | tableExists (table : String)
  | constraint (c : Constraint)
  | unsupported (text : String)
deriving DecidableEq, Repr

namespace Constraint

/-- The text of a broken rule. -/
def message : Constraint → String
  | nullCell table column => table ++ "." ++ column ++ " must not be null"
  | duplicateKey table column key => "duplicate " ++ table ++ "." ++ column ++ " = " ++ key
  | rowLength table values columns =>
    table ++ ": row has " ++ Numeral.natText values ++ " values for " ++ Numeral.natText columns ++ " columns"
  | nullsPresent table column => table ++ "." ++ column ++ " has null values and cannot become NOT NULL"
  | valuesTooLong table column limit =>
    table ++ "." ++ column ++ " has values longer than " ++ Numeral.natText limit
  | nothingToFill table column => table ++ "." ++ column ++ " is NOT NULL without a default"
  | other text => text

end Constraint

namespace StoreError

/-- The text of a failure. -/
def message : StoreError → String
  | database text => "database: " ++ text
  | missingTable table => "table not found: " ++ table
  | unknownColumn table column => "table " ++ table ++ " has no column " ++ column
  | tableExists table => "table already exists: " ++ table
  | constraint c => "constraint violated: " ++ c.message
  | unsupported text => "unsupported: " ++ text

/-- The class of a failure. -/
def kind : StoreError → String
  | database _ => "Db"
  | missingTable _ => "MissingTable"
  | unknownColumn _ _ => "UnknownColumn"
  | tableExists _ => "TableExists"
  | constraint _ => "Constraint"
  | unsupported _ => "Unsupported"

end StoreError

end DataModel

import DataModel.Text.Numeral
import DataModel.Text.Segment

/-! What a column holds, read from the type a declaration names, and what follows from it: sizes, the classes of
kinds, and the types of the database. -/

namespace DataModel

/-- The kind of a column. -/
inductive Kind where
  | id
  | string (length : Nat)
  | char (length : Nat)
  | text
  | smallInteger
  | integer
  | bigInteger
  | float
  | double
  | decimal (precision scale : Nat)
  | boolean
  | json
  | date
  | dateTime
  | timestamp
  | time
  | uuid
  | enum
  | password
deriving DecidableEq, Repr

namespace Kind

/-- The kind of a declared type with its sizes. The case of the type does not matter. -/
def ofType? (type : String) (length precision scale : Option Nat) : Option Kind :=
  match Segment.lower type with
  | "id" => some id
  | "string" | "varchar" => some (string (length.getD 255))
  | "char" => some (char (length.getD 1))
  | "text" | "mediumtext" | "longtext" => some text
  | "tinyinteger" | "smallinteger" => some smallInteger
  | "integer" | "int" => some integer
  | "biginteger" | "bigint" => some bigInteger
  | "float" => some float
  | "double" => some double
  | "decimal" => some (decimal (precision.getD 10) (scale.getD 2))
  | "boolean" | "bool" => some boolean
  | "json" | "jsonb" => some json
  | "date" => some date
  | "datetime" => some dateTime
  | "timestamp" => some timestamp
  | "time" => some time
  | "uuid" => some uuid
  | "enum" => some enum
  | "password" => some password
  | _ => none

/-- The name of a kind. -/
def name : Kind → String
  | id => "id"
  | string _ => "string"
  | char _ => "char"
  | text => "text"
  | smallInteger => "smallinteger"
  | integer => "integer"
  | bigInteger => "biginteger"
  | float => "float"
  | double => "double"
  | decimal _ _ => "decimal"
  | boolean => "boolean"
  | json => "json"
  | date => "date"
  | dateTime => "datetime"
  | timestamp => "timestamp"
  | time => "time"
  | uuid => "uuid"
  | enum => "enum"
  | password => "password"

/-- Whether the values are whole numbers. -/
def isInteger : Kind → Bool
  | id | smallInteger | integer | bigInteger => true
  | _ => false

/-- Whether the values are numbers. -/
def isNumeric : Kind → Bool
  | float | double | decimal _ _ => true
  | k => k.isInteger

/-- Whether the values are texts. -/
def isTextual : Kind → Bool
  | string _ | char _ | text | enum | password | uuid | date | dateTime | timestamp | time => true
  | _ => false

/-- How many characters a value may have. -/
def maxLength : Kind → Option Nat
  | string length | char length => some length
  | _ => none

/-- How many digits a decimal has, and how many of them after the point. -/
def shape : Kind → Option (Nat × Nat)
  | decimal precision scale => some (precision, scale)
  | _ => none

/-- The type a parameter for a column is cast to. Texts of all kinds are cast to one type, so a
number compared with a text column is turned into text. -/
def cast : Kind → String
  | id | bigInteger => "bigint"
  | smallInteger => "smallint"
  | integer => "integer"
  | float => "real"
  | double => "double precision"
  | decimal _ _ => "numeric"
  | boolean => "boolean"
  | json => "jsonb"
  | date => "date"
  | dateTime => "timestamp"
  | timestamp => "timestamptz"
  | time => "time"
  | uuid => "uuid"
  | string _ | char _ | text | enum | password => "text"

/-- The type a column is declared with in SQL. -/
def ddl : Kind → String
  | id => "BIGSERIAL"
  | string length => "VARCHAR(" ++ Numeral.natText length ++ ")"
  | char length => "CHAR(" ++ Numeral.natText length ++ ")"
  | text => "TEXT"
  | smallInteger => "SMALLINT"
  | integer => "INTEGER"
  | bigInteger => "BIGINT"
  | float => "REAL"
  | double => "DOUBLE PRECISION"
  | decimal precision scale => "NUMERIC(" ++ Numeral.natText precision ++ "," ++ Numeral.natText scale ++ ")"
  | boolean => "BOOLEAN"
  | json => "JSONB"
  | date => "DATE"
  | dateTime => "TIMESTAMP"
  | timestamp => "TIMESTAMPTZ"
  | time => "TIME"
  | uuid => "UUID"
  | enum | password => "VARCHAR(255)"

/-- The type by which the database describes a column. -/
def dataType : Kind → String
  | id | bigInteger => "bigint"
  | string _ | enum | password => "character varying"
  | char _ => "character"
  | text => "text"
  | smallInteger => "smallint"
  | integer => "integer"
  | float => "real"
  | double => "double precision"
  | decimal _ _ => "numeric"
  | boolean => "boolean"
  | json => "jsonb"
  | date => "date"
  | dateTime => "timestamp without time zone"
  | timestamp => "timestamp with time zone"
  | time => "time without time zone"
  | uuid => "uuid"

end Kind

end DataModel

import DataModel.Power
import DataModel.Assoc
import DataModel.Text.Blank
import DataModel.Text.Numeral

/-! Where the database is, which schema holds the tables, where model sources lie and how costly password hashes
are. Every setting has a default; a number that cannot be read counts as not given. -/

namespace DataModel

/-- What a program run needs to know from outside. -/
structure Settings where
  databaseUrl : String
  schema : String
  maxConnections : Nat
  modelRoot : String
  hashCost : Nat

namespace Settings

/-- The cost of password hashes when none is given. -/
def defaultHashCost : Nat :=
  12

/-- The settings when nothing is given. -/
def standard : Settings :=
  { databaseUrl := "postgres://localhost/modelkit"
    schema := "public"
    maxConnections := 5
    modelRoot := "models"
    hashCost := defaultHashCost }

/-- An unsigned 32-bit number between blanks. -/
def number? (text : String) : Option Nat :=
  Numeral.unsigned? (twoTo 32) (Blank.trim text.toList)

/-- The settings a set of names and texts gives. -/
def ofLookup (lookup : String → Option String) : Settings :=
  { databaseUrl := (lookup "DATABASE_URL").getD standard.databaseUrl
    schema := (lookup "MODELKIT_SCHEMA").getD standard.schema
    maxConnections := ((lookup "MODELKIT_MAX_CONNECTIONS").bind number?).getD standard.maxConnections
    modelRoot := (lookup "MODELKIT_MODEL_ROOT").getD standard.modelRoot
    hashCost := ((lookup "MODELKIT_BCRYPT_COST").bind number?).getD standard.hashCost }

end Settings

end DataModel

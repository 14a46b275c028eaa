import DataModel.Sql.Piece

/-! A column's default as SQL, and the binary form in which a parameter is sent. -/

namespace DataModel.Sql

/-- A value as SQL text. Lists and maps are JSON texts. -/
def defaultLiteral : Value → Statement
  | .null => [.word "NULL"]
  | .bool true => [.word "TRUE"]
  | .bool false => [.word "FALSE"]
  | .int n => [.word (Numeral.int64Text n)]
  | .float x => [.word x.plainText]
  | .text s => [.literal s]
  | v => [.literal v.jsonText, .word "::jsonb"]

/-- The types of bound parameters. -/
inductive BoundType where
  | text
  | truth
  | whole
  | real
  | document
deriving DecidableEq

/-- The name of a parameter type. -/
def BoundType.name : BoundType → String
  | text => "TEXT"
  | truth => "BOOL"
  | whole => "INT8"
  | real => "FLOAT8"
  | document => "JSONB"

/-- A parameter as it is sent: its type and its bytes, `none` for null. -/
structure Bound where
  type : BoundType
  bytes : Option (List UInt8)

/-- The eight bytes of a word, big end first. -/
def bigEndian (w : UInt64) : List UInt8 :=
  ([56, 48, 40, 32, 24, 16, 8, 0] : List UInt64).map fun s => (w >>> s).toUInt8

/-- The type a parameter is declared with before its value is known. -/
def declaredType : BoundType :=
  .text

/-- A value as a bound parameter. A document starts with the byte of its format's version. -/
def bind : Value → Bound
  | .null => ⟨.text, none⟩
  | .bool b => ⟨.truth, some [if b then 1 else 0]⟩
  | .int n => ⟨.whole, some (bigEndian n.toUInt64)⟩
  | .float x => ⟨.real, some (bigEndian x.bits)⟩
  | .text s => ⟨.text, some s.toUTF8.toList⟩
  | v => ⟨.document, some (1 :: v.jsonText.toUTF8.toList)⟩

end DataModel.Sql

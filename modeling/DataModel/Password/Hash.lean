import DataModel.Password.Blowfish
import DataModel.Password.Radix64
import DataModel.Text.Numeral
import DataModel.Text.Segment

/-! A hash is made with a random salt and a cost: a phrase is ciphered with tables into which password and salt
have been mixed in turn, twice as often for every step of the cost. The text of a hash holds its version, cost
and salt, so a password can be checked against it. -/

namespace DataModel.PasswordHash

/-- The least cost. -/
def leastCost : Nat :=
  4

/-- The greatest cost. -/
def greatestCost : Nat :=
  31

/-- How many octets a salt has. -/
def saltLength : Nat :=
  16

/-- How many octets of a password count, its end mark included. -/
def keyLength : Nat :=
  72

/-- A password as a key: its octets and an end mark. -/
def keyOf (password : String) : Array UInt8 :=
  ((password.toUTF8.toList ++ [0]).take keyLength).toArray

/-- The tables after a password and a salt, mixed in `2 ^ cost` times. -/
def tables (cost : Nat) (salt key : Array UInt8) : Blowfish :=
  let noSalt : Array UInt8 := #[0]
  Nat.repeat (fun b => (b.mix noSalt key).mix noSalt salt) (twoTo cost) (Blowfish.initial.mix salt key)

/-- The phrase that is ciphered, as words. -/
def phrase : List UInt32 :=
  let octets := ("OrpheanBeholderScryDoubt".toList.map fun c => UInt8.ofNat c.toNat).toArray
  (List.range 6).map fun i => Blowfish.cyclicWord octets (4 * i)

/-- Pairs of words, ciphered. -/
def encipherAll (b : Blowfish) : List UInt32 → List UInt32
  | left :: right :: rest =>
    let (left, right) := b.encipher left right
    left :: right :: encipherAll b rest
  | words => words

/-- The octets of a word. -/
def octetsOf (w : UInt32) : List UInt8 :=
  ([24, 16, 8, 0] : List UInt32).map fun s => (w >>> s).toUInt8

/-- How many octets of the ciphered phrase are kept. -/
def digestLength : Nat :=
  23

/-- The octets of a hash. -/
def digest (cost : Nat) (salt : List UInt8) (password : String) : List UInt8 :=
  let b := tables cost salt.toArray (keyOf password)
  ((Nat.repeat (encipherAll b) 64 phrase).flatMap octetsOf).take digestLength

/-- Whether a cost is allowed. -/
def isCost (cost : Nat) : Bool :=
  leastCost ≤ cost && cost ≤ greatestCost

/-- A cost with two digits. -/
def costText (cost : Nat) : String :=
  if cost < 10 then "0" ++ Numeral.natText cost else Numeral.natText cost

/-- The hash of a password, if the cost is allowed. -/
def make? (cost : Nat) (salt : List UInt8) (password : String) : Option String :=
  if isCost cost then
    some ("$2b$" ++ costText cost ++ "$" ++
      String.ofList (Radix64.encode salt ++ Radix64.encode (digest cost salt password)))
  else none

/-- How many characters the text of a salt has. -/
def saltTextLength : Nat :=
  22

/-- How many characters the texts of salt and digest have together. -/
def bodyLength : Nat :=
  53

/-- The versions of hashes that can be checked. -/
def versions : List String :=
  ["2y", "2b", "2a", "2x"]

/-- Whether a text is the hash of a password; `none` for a text that is no hash. -/
def verify? (password text : String) : Option Bool :=
  match (Segment.cut '$' text.toList).filter (fun part => !part.isEmpty) with
  | [version, cost, body] => do
    if ¬ versions.contains (String.ofList version) ∨ body.length ≠ bodyLength then none
    let cost ← Numeral.unsigned? (twoTo 32) cost
    let salt ← Radix64.decode? (body.take saltTextLength)
    let stored ← Radix64.decode? (body.drop saltTextLength)
    if isCost cost then some (stored = digest cost salt password) else none
  | _ => none

end DataModel.PasswordHash

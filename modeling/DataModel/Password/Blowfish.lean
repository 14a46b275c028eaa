import DataModel.Password.Pi

/-! A cipher on pairs of words with keyed tables. The tables start as the binary digits of pi; a key is mixed into
them by ciphering with the tables themselves. -/

namespace DataModel

/-- The subkeys and the four substitution tables, one after the other. -/
structure Blowfish where
  subkeys : Array UInt32
  boxes : Array UInt32

namespace Blowfish

/-- How many subkeys there are. -/
def subkeyCount : Nat :=
  18

/-- How many words the substitution tables have together. -/
def boxCount : Nat :=
  1024

/-- The `count` words of a number, most significant first, in front of others. -/
def wordsOf : Nat → Nat → List UInt32 → List UInt32
  | 0, _, words => words
  | count + 1, n, words => wordsOf count (n / twoTo 32) (UInt32.ofNat (n % twoTo 32) :: words)

/-- The tables before any key. -/
def initial : Blowfish :=
  let count := subkeyCount + boxCount
  let words := wordsOf count (Pi.fraction (32 * count)) []
  ⟨(words.take subkeyCount).toArray, (words.drop subkeyCount).toArray⟩

/-- The word that the tables give for a word. -/
def substitute (boxes : Array UInt32) (x : UInt32) : UInt32 :=
  let a := boxes.getD (x >>> 24).toNat 0
  let b := boxes.getD (256 + ((x >>> 16) &&& 255).toNat) 0
  let c := boxes.getD (512 + ((x >>> 8) &&& 255).toNat) 0
  let d := boxes.getD (768 + (x &&& 255).toNat) 0
  ((a + b) ^^^ c) + d

/-- The rounds of the cipher from a subkey on. -/
def rounds (b : Blowfish) : Nat → Nat → UInt32 → UInt32 → UInt32 × UInt32
  | 0, i, left, right => (right ^^^ b.subkeys.getD (i + 1) 0, left ^^^ b.subkeys.getD i 0)
  | n + 1, i, left, right =>
    let left := left ^^^ b.subkeys.getD i 0
    rounds b n (i + 1) (right ^^^ substitute b.boxes left) left

/-- A pair of words, ciphered. -/
def encipher (b : Blowfish) (left right : UInt32) : UInt32 × UInt32 :=
  rounds b (subkeyCount - 2) 0 left right

/-- Four octets from a place on, round and round, as a word. -/
def cyclicWord (octets : Array UInt8) (place : Nat) : UInt32 :=
  (List.range 4).foldl
    (fun w i => (w <<< 8) ||| (octets.getD ((place + i) % octets.size) 0).toUInt32) 0

/-- Subkeys with the words of a key added. -/
def addKey (key : Array UInt8) (subkeys : Array UInt32) : Array UInt32 :=
  subkeys.mapIdx fun i w => w ^^^ cyclicWord key (4 * i)

/-- Where mixing has come to: the tables and the pair of words ciphered last. -/
structure Mixing where
  tables : Blowfish
  left : UInt32
  right : UInt32

/-- Cipher the pair with the next two words of the salt added. -/
def Mixing.next (salt : Array UInt8) (place : Nat) (m : Mixing) : UInt32 × UInt32 :=
  m.tables.encipher (m.left ^^^ cyclicWord salt (8 * place)) (m.right ^^^ cyclicWord salt (8 * place + 4))

/-- Replace the next two subkeys. -/
def Mixing.stepSubkeys (salt : Array UInt8) (m : Mixing) (i : Nat) : Mixing :=
  let (left, right) := m.next salt i
  match m with
  | ⟨⟨subkeys, boxes⟩, _, _⟩ =>
    ⟨⟨(subkeys.setIfInBounds (2 * i) left).setIfInBounds (2 * i + 1) right, boxes⟩, left, right⟩

/-- Replace the next two words of the substitution tables. -/
def Mixing.stepBoxes (salt : Array UInt8) (m : Mixing) (i : Nat) : Mixing :=
  let (left, right) := m.next salt (subkeyCount / 2 + i)
  match m with
  | ⟨⟨subkeys, boxes⟩, _, _⟩ =>
    ⟨⟨subkeys, (boxes.setIfInBounds (2 * i) left).setIfInBounds (2 * i + 1) right⟩, left, right⟩

/-- The tables after a key and a salt. -/
def mix (b : Blowfish) (salt key : Array UInt8) : Blowfish :=
  match b with
  | ⟨subkeys, boxes⟩ =>
    let m : Mixing := ⟨⟨addKey key subkeys, boxes⟩, 0, 0⟩
    let m := (List.range (subkeyCount / 2)).foldl (Mixing.stepSubkeys salt) m
    ((List.range (boxCount / 2)).foldl (Mixing.stepBoxes salt) m).tables

end Blowfish

end DataModel

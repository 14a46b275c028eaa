/-! The characters with the Unicode property White_Space, and removing them from the ends of a text. -/

namespace DataModel.Blank

/-- The code points with the property White_Space, as ranges. -/
def ranges : List (Nat × Nat) :=
  [(0x09, 0x0d), (0x20, 0x20), (0x85, 0x85), (0xa0, 0xa0), (0x1680, 0x1680), (0x2000, 0x200a),
   (0x2028, 0x2029), (0x202f, 0x202f), (0x205f, 0x205f), (0x3000, 0x3000)]

/-- Whether `c` is white space. -/
def isBlank (c : Char) : Bool :=
  ranges.any fun r => r.1 ≤ c.toNat && c.toNat ≤ r.2

/-- Drop white space in front. -/
def dropLeading (cs : List Char) : List Char :=
  cs.dropWhile isBlank

/-- Drop white space at both ends. -/
def trim (cs : List Char) : List Char :=
  (dropLeading (dropLeading cs).reverse).reverse

/-- Whether a text has no character besides white space. -/
def isAllBlank (text : String) : Bool :=
  text.toList.all isBlank

end DataModel.Blank

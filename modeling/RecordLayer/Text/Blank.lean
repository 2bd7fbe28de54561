/-!
# Blank characters

The property White_Space of Unicode. The zero-width space and the byte-order mark do not have it,
nor do the ASCII information separators.
-/

namespace RecordLayer.Text

/-- The code points with the property White_Space. -/
def blankRanges : List (Nat × Nat) :=
  [(0x09, 0x0d), (0x20, 0x20), (0x85, 0x85), (0xa0, 0xa0), (0x1680, 0x1680), (0x2000, 0x200a),
   (0x2028, 0x2029), (0x202f, 0x202f), (0x205f, 0x205f), (0x3000, 0x3000)]

def isBlank (c : Char) : Bool :=
  blankRanges.any fun r => r.1 ≤ c.toNat && c.toNat ≤ r.2

/-- Drops blanks at both ends. -/
def trim (cs : List Char) : List Char :=
  ((cs.dropWhile isBlank).reverse.dropWhile isBlank).reverse

/-- Capital letters, in ASCII alone. -/
def upper (cs : List Char) : List Char :=
  cs.map Char.toUpper

/-- Small letters, in ASCII alone. -/
def lower (cs : List Char) : List Char :=
  cs.map Char.toLower

end RecordLayer.Text

-- Blanks of all scripts: the Unicode property White_Space.

namespace Patchbay.Text

/-- The code points of blanks, as inclusive ranges in rising order. -/
def spaceRanges : List (Nat × Nat) := [
  (0x9, 0xd), (0x20, 0x20), (0x85, 0x85), (0xa0, 0xa0), (0x1680, 0x1680), (0x2000, 0x200a),
  (0x2028, 0x2029), (0x202f, 0x202f), (0x205f, 0x205f), (0x3000, 0x3000)]

def isSpace (c : Char) : Bool := spaceRanges.any fun r => r.1 ≤ c.toNat && c.toNat ≤ r.2

/-- A text without the blanks after it. -/
def trimEnd (cs : List Char) : List Char := (cs.reverse.dropWhile isSpace).reverse

/-- A text without the blanks around it. -/
def trim (cs : List Char) : List Char := trimEnd (cs.dropWhile isSpace)

end Patchbay.Text

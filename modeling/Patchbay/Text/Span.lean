-- Parts of a text that are counted off in bytes. A count may end inside a
-- character, and then there is no such part.

namespace Patchbay.Text

/-- The first bytes of a text and the rest, if a character ends after that many. -/
def splitAtByte? : Nat → List Char → Option (List Char × List Char)
  | 0, cs => some ([], cs)
  | _ + 1, [] => none
  | n + 1, c :: cs =>
    if c.utf8Size ≤ n + 1 then
      (splitAtByte? (n + 1 - c.utf8Size) cs).map fun p => (c :: p.1, p.2)
    else none

/-- What follows after so many bytes. -/
def dropBytes? (n : Nat) (cs : List Char) : Option (List Char) := (splitAtByte? n cs).map (·.2)

/-- The part of a text from one byte up to another. -/
def span? (first stop : Nat) (cs : List Char) : Option (List Char) := do
  let (taken, _) ← splitAtByte? stop cs
  dropBytes? first taken

end Patchbay.Text

-- Text in bytes. Bytes that are no UTF-8 have a flaw: the place where the
-- longest readable beginning ends, and how many bytes there start a character
-- that does not come to be.

namespace Patchbay.Utf8

/-- The first place where bytes stop being text. -/
structure Flaw where
  /-- How many bytes before it are text. -/
  index : Nat
  /-- How many bytes begin a character and break off, or nothing when the bytes end
  inside the character. -/
  length : Option Nat
deriving DecidableEq

/-- What is wrong, in words. -/
def Flaw.message (f : Flaw) : String :=
  match f.length with
  | some n => s!"invalid utf-8 sequence of {n} bytes from index {f.index}"
  | none => s!"incomplete utf-8 byte sequence from index {f.index}"

/-- The bytes that may follow a lead byte, place by place, as inclusive ranges. A byte
that is no lead byte of a longer character has none. -/
def followers (lead : UInt8) : List (UInt8 × UInt8) :=
  let any := (0x80, 0xbf)
  if 0xc2 ≤ lead ∧ lead ≤ 0xdf then [any]
  else if lead = 0xe0 then [(0xa0, 0xbf), any]
  else if lead = 0xed then [(0x80, 0x9f), any]
  else if 0xe1 ≤ lead ∧ lead ≤ 0xef then [any, any]
  else if lead = 0xf0 then [(0x90, 0xbf), any, any]
  else if 0xf1 ≤ lead ∧ lead ≤ 0xf3 then [any, any, any]
  else if lead = 0xf4 then [(0x80, 0x8f), any, any]
  else []

/-- How many bytes fit before the first that does not, counted on from `n`; nothing
when the bytes end first. -/
def fitting : List (UInt8 × UInt8) → List UInt8 → Nat → Option Nat
  | [], _, n => some n
  | _ :: _, [], _ => none
  | r :: rs, b :: bs, n => if r.1 ≤ b ∧ b ≤ r.2 then fitting rs bs (n + 1) else some n

/-- Where the text that starts at byte `i` ends. -/
def textEnd (bytes : ByteArray) (i : Nat) : Nat :=
  match _h : bytes.utf8DecodeChar? i with
  | some c => textEnd bytes (i + c.utf8Size)
  | none => i
termination_by bytes.size - i
decreasing_by
  have := ByteArray.lt_size_of_isSome_utf8DecodeChar? (b := bytes) (i := i) (by simp [_h])
  have := c.utf8Size_pos
  omega

/-- The flaw of bytes that are no text. -/
def flaw (bytes : ByteArray) : Flaw :=
  let i := textEnd bytes 0
  match bytes.data.toList.drop i with
  | [] => ⟨i, none⟩
  | lead :: rest => ⟨i, fitting (followers lead) rest 1⟩

/-- The text that bytes encode. -/
def read (bytes : ByteArray) : Except Flaw String :=
  match String.fromUTF8? bytes with
  | some s => .ok s
  | none => .error (flaw bytes)

/-- The bytes of a text. -/
def write (s : String) : List UInt8 := s.toByteArray.data.toList

theorem read_toByteArray (s : String) : read s.toByteArray = .ok s := by
  simp [read, String.fromUTF8?, s.isValidUTF8, String.fromUTF8]

end Patchbay.Utf8

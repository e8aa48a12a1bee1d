-- Decimal numerals as they stand in a field: digits with at most one plus sign
-- before them, leading zeros allowed. Each slot, count and size is a 32-bit
-- word, so a numeral above 4294967295 names none of them.
import Patchbay.Text.Digits

namespace Patchbay.Numeral

/-- The digits of a numeral, without the plus sign that may stand before them. -/
def unsigned : List Char → List Char
  | '+' :: cs => cs
  | cs => cs

/-- The value of a numeral, when it is at most `limit`. There must be a digit. -/
def upTo? (limit : Nat) (s : String) : Option Nat :=
  let digits := unsigned s.toList
  if digits = [] then none else Text.upTo? 10 limit digits

/-- The 32-bit word that a numeral denotes. -/
def word? (s : String) : Option UInt32 :=
  (upTo? (UInt32.size - 1) s).map UInt32.ofNat

/-- The shortest numeral of a number: its decimal digits. -/
def write (n : Nat) : String := String.ofList (Nat.toDigits 10 n)

/-- The shortest numeral of a word. -/
def ofWord (n : UInt32) : String := write n.toNat

end Patchbay.Numeral

-- Text in quotation marks, for messages and displays. A reader sees each
-- character, or its number where the character itself could not be seen.
import Patchbay.Text.Combining
import Patchbay.Text.Unprintable

namespace Patchbay.Text

/-- A character by its number, in hexadecimal without padding. -/
def byNumber (c : Char) : List Char :=
  ['\\', 'u', '\x7b'] ++ Nat.toDigits 16 c.toNat ++ ['\x7d']

/-- How a character stands inside quotation marks. -/
def escaped (c : Char) : List Char :=
  match c with
  | '\x00' => ['\\', '0']
  | '\t' => ['\\', 't']
  | '\n' => ['\\', 'n']
  | '\r' => ['\\', 'r']
  | '"' => ['\\', '"']
  | '\\' => ['\\', '\\']
  | c =>
    if '\x20' ≤ c ∧ c ≤ '\x7e' then [c]
    else if isCombining c || isUnprintable c then byNumber c
    else [c]

/-- A text in quotation marks. -/
def quoted (s : String) : String :=
  String.ofList ('"' :: s.toList.flatMap escaped ++ ['"'])

end Patchbay.Text

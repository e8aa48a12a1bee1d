-- Upper case, as far as it can lead to plain Latin letters. Besides the small
-- letters themselves, a few characters have a full upper case made of them.

namespace Patchbay.Text

/-- The full upper case of a character, when it consists of plain Latin letters.
Every other character stays, so it matches no name written in such letters. -/
def upperLatin (c : Char) : List Char :=
  if 'a' ≤ c ∧ c ≤ 'z' then [Char.ofNat (c.toNat - 32)]
  else match c with
    | 'ı' => ['I']
    | 'ſ' => ['S']
    | 'ß' => ['S', 'S']
    | 'ﬀ' => ['F', 'F']
    | 'ﬁ' => ['F', 'I']
    | 'ﬂ' => ['F', 'L']
    | 'ﬃ' => ['F', 'F', 'I']
    | 'ﬄ' => ['F', 'F', 'L']
    | 'ﬅ' => ['S', 'T']
    | 'ﬆ' => ['S', 'T']
    | _ => [c]

/-- A text with each character in upper case, as far as `upperLatin` reaches. -/
def upperCased (s : String) : String :=
  String.ofList (s.toList.flatMap upperLatin)

end Patchbay.Text

-- A text cut at each occurrence of a separator. The parts between are kept,
-- empty ones too, so joining them with the separator gives the text back.

namespace Patchbay.Text

/-- The parts between the separators. There is always at least one. -/
def splitAtEach (sep : Char) : List Char → List (List Char)
  | [] => [[]]
  | c :: cs =>
    if c = sep then [] :: splitAtEach sep cs
    else match splitAtEach sep cs with
      | [] => [[c]]
      | part :: parts => (c :: part) :: parts

/-- The parts of a text between the separators. -/
def fields (sep : Char) (s : String) : List String :=
  (splitAtEach sep s.toList).map String.ofList

end Patchbay.Text

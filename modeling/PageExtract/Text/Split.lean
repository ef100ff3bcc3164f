/-!
Texts cut at every occurrence of a character.
-/

set_option autoImplicit false

namespace PageExtract.Text

/-- The parts of a text between occurrences of a character. -/
def splitAt (sep : Char) : List Char → List (List Char)
  | [] => [[]]
  | c :: rest =>
    if c = sep then [] :: splitAt sep rest
    else match splitAt sep rest with
      | [] => [[c]]
      | part :: parts => (c :: part) :: parts

end PageExtract.Text

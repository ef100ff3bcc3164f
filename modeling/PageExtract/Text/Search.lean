/-!
Texts inside of texts.
-/

set_option autoImplicit false

namespace PageExtract.Text

/-- Some part of the text is the given one. -/
def infixOf (part : List Char) : List Char → Bool
  | [] => part.isEmpty
  | c :: rest => part.isPrefixOf (c :: rest) || infixOf part rest

end PageExtract.Text

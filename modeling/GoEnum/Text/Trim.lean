/-
  Cutting white space off both ends of a text.
-/
import GoEnum.Text.Property.Blank

namespace GoEnum.Text

/-- The characters without the white space at their end. -/
def trimEnd (cs : List Char) : List Char :=
  (cs.reverse.dropWhile isBlank).reverse

/-- The characters without the white space at both ends. -/
def trim (cs : List Char) : List Char :=
  trimEnd (cs.dropWhile isBlank)

end GoEnum.Text

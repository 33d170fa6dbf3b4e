/-
  Letters and numbers of all scripts, taken together.
-/
import GoEnum.Text.Property.Alphabetic
import GoEnum.Text.Property.Numeric

namespace GoEnum.Text

/-- Whether a character is alphabetic or a number. -/
def isAlphanumeric (c : Char) : Bool :=
  isAlphabetic c || isNumeric c

end GoEnum.Text

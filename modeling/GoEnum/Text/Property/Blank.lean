/-
  The White_Space property of characters: the blanks, tabs and line and page
  breaks of all scripts, as the Unicode Character Database (edition 17) gives them.
-/
import GoEnum.Text.CodeRange

namespace GoEnum.Text

/-- The runs of blank code points. -/
def blankRanges : List CodeRange := [
  ⟨0x0009, 0x000D⟩, ⟨0x0020, 0x0020⟩, ⟨0x0085, 0x0085⟩, ⟨0x00A0, 0x00A0⟩, ⟨0x1680, 0x1680⟩,
  ⟨0x2000, 0x200A⟩, ⟨0x2028, 0x2029⟩, ⟨0x202F, 0x202F⟩, ⟨0x205F, 0x205F⟩, ⟨0x3000, 0x3000⟩]

/-- Whether a character is white space. -/
def isBlank (c : Char) : Bool :=
  inRanges blankRanges c

end GoEnum.Text

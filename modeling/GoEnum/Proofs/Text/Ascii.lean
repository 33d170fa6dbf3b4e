/-
  The ASCII characters in the tables of properties.

  A table lists its runs in ascending order, so only its first runs can hold an ASCII
  character: the two runs of letters among the alphabetic characters, the run of
  digits among the numbers. So below `0x80` the properties are the familiar ones
  (`isAlphabetic_ascii`, `isAlphanumeric_ascii`).
-/
import GoEnum.Text.Property.Alphanumeric

namespace GoEnum.Text

/-- A character below all runs of a table but the first ones is in one of these or in none. -/
theorem inRanges_append_of_lt (front : List CodeRange) {rest : List CodeRange} {bound : Nat}
    (hrest : ∀ r ∈ rest, bound ≤ r.first) {c : Char} (hc : c.toNat < bound) :
    inRanges (front ++ rest) c = inRanges front c := by
  have hnone : inRanges rest c = false := by
    rw [Bool.eq_false_iff]
    intro hin
    obtain ⟨r, hr, hfirst, -⟩ := (inRanges_iff rest c).mp hin
    have hbound := hrest r hr
    omega
  rw [inRanges, List.any_append, ← inRanges, ← inRanges, hnone, Bool.or_false]

-- The bounds are compared by `Nat.ble`, which the kernel computes at once.
set_option maxRecDepth 8000 in
theorem le_first_of_mem_alphabeticRanges : ∀ r ∈ alphabeticRanges.drop 2, 0x80 ≤ r.first := by
  have hall : ((alphabeticRanges.drop 2).all fun r => Nat.ble 0x80 r.first) = true := by
    decide
  simpa only [List.all_eq_true, Nat.ble_eq] using hall

set_option maxRecDepth 4000 in
theorem le_first_of_mem_numericRanges : ∀ r ∈ numericRanges.drop 1, 0x80 ≤ r.first := by
  have hall : ((numericRanges.drop 1).all fun r => Nat.ble 0x80 r.first) = true := by
    decide
  simpa only [List.all_eq_true, Nat.ble_eq] using hall

theorem isAlphabetic_ascii {c : Char} (hc : c.toNat < 0x80) : isAlphabetic c = c.isAlpha := by
  have htable : isAlphabetic c = inRanges [⟨0x41, 0x5A⟩, ⟨0x61, 0x7A⟩] c :=
    inRanges_append_of_lt [⟨0x41, 0x5A⟩, ⟨0x61, 0x7A⟩] le_first_of_mem_alphabeticRanges hc
  have hletter : c.isAlpha = (decide ('A'.val ≤ c.val ∧ c.val ≤ 'Z'.val) ||
      (decide ('a'.val ≤ c.val) && decide (c.val ≤ 'z'.val))) := rfl
  rw [htable, hletter, Bool.eq_iff_iff, inRanges_iff]
  simp [UInt32.le_iff_toNat_le]

theorem isNumeric_ascii {c : Char} (hc : c.toNat < 0x80) : isNumeric c = c.isDigit := by
  have htable : isNumeric c = inRanges [⟨0x30, 0x39⟩] c :=
    inRanges_append_of_lt [⟨0x30, 0x39⟩] le_first_of_mem_numericRanges hc
  have hdigit : c.isDigit = (decide ('0'.val ≤ c.val) && decide (c.val ≤ '9'.val)) := rfl
  rw [htable, hdigit, Bool.eq_iff_iff, inRanges_iff]
  simp [UInt32.le_iff_toNat_le]

theorem isAlphanumeric_ascii {c : Char} (hc : c.toNat < 0x80) :
    isAlphanumeric c = c.isAlphanum := by
  rw [isAlphanumeric, isAlphabetic_ascii hc, isNumeric_ascii hc, Char.isAlphanum]

/-! ### Letters by their code points -/

theorem isLower_iff {c : Char} : c.isLower = true ↔ 0x61 ≤ c.toNat ∧ c.toNat ≤ 0x7A := by
  have hletter : c.isLower = (decide ('a'.val ≤ c.val) && decide (c.val ≤ 'z'.val)) := rfl
  rw [hletter]
  simp [UInt32.le_iff_toNat_le]

theorem isUpper_iff {c : Char} : c.isUpper = true ↔ 0x41 ≤ c.toNat ∧ c.toNat ≤ 0x5A := by
  have hletter : c.isUpper = decide ('A'.val ≤ c.val ∧ c.val ≤ 'Z'.val) := rfl
  rw [hletter]
  simp [UInt32.le_iff_toNat_le]

end GoEnum.Text

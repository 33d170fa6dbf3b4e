/-
  Filling a text with spaces up to a column.

  A column is at most `maxWidth`; a greater one is refused, whatever the text.
-/

namespace GoEnum.Text

/-- The greater one of two widths. -/
abbrev wider (a b : Nat) : Nat :=
  max a b

/-- The greatest width that a text can be padded to. -/
def maxWidth : Nat := 65535

/-- The text with as many spaces after it as it lacks characters to `width`; nothing if the
width is beyond `maxWidth`. -/
def padRight? (width : Nat) (s : String) : Option String :=
  if width ≤ maxWidth then
    some (s ++ String.ofList (List.replicate (width - s.length) ' '))
  else none

theorem isSome_padRight?_iff (width : Nat) (s : String) :
    (padRight? width s).isSome = true ↔ width ≤ maxWidth := by
  unfold padRight?
  split <;> simp [*]

/-- A padded text has the width, or the length of the text if that is greater. -/
theorem length_of_padRight? {width : Nat} {s t : String} (h : padRight? width s = some t) :
    t.length = max width s.length := by
  unfold padRight? at h
  split at h
  · have ht := Option.some.inj h
    rw [← ht]
    simp only [String.length_append, String.length_ofList, List.length_replicate]
    omega
  · simp at h

end GoEnum.Text

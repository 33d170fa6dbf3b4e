/-
  What the receiver of the methods differs from.

  The receiver is one small ASCII letter, with a dot after it if it comes from the dotted
  capital. Constants do not start with such a letter, what is made of the name of the
  enumeration is longer, and so are all words that are declared before.
-/
import GoEnum.Proofs.Naming.Reserved
import GoEnum.Proofs.Naming.SmallForms
import GoEnum.Proofs.Text.SmallAscii

namespace GoEnum.Naming

open Text Lexeme

/-- The receiver starts with an ASCII small letter. -/
theorem isLower_of_mem_head?_receiver (name : String) :
    ∃ c ∈ (receiver name).toList.head?, c.isLower = true := by
  rcases receiver_cases name with ⟨hletter, -, c, hc, halpha⟩ | hfallback
  · refine ⟨c, hc, ?_⟩
    have hmem := List.mem_of_mem_head? hc
    rw [hletter] at hmem
    have hupper : c.isUpper = false := by
      rw [Bool.eq_false_iff, ne_eq, isUpper_iff]
      rcases eq_or_le_of_mem_lowercase hmem with ⟨-, hnot⟩ | hle
      · exact hnot
      · omega
    have hcase : (c.isUpper || c.isLower) = true := halpha
    rwa [hupper, Bool.false_or] at hcase
  · rw [hfallback]
    unfold receiver.fallback
    split
    · exact ⟨'v', rfl, rfl⟩
    · exact ⟨'e', rfl, rfl⟩

theorem length_receiver_le (name : String) : (receiver name).toList.length ≤ 2 := by
  rcases receiver_cases name with ⟨hletter, -⟩ | hfallback
  · rw [hletter]
    exact length_lowercase_firstChar_le name
  · rw [hfallback]
    unfold receiver.fallback
    split <;> decide

/-! ### What the methods bind -/

/-- The names that the methods of an enumeration bind: the receiver, and what the method that reads
a value from text has for a parameter and declares. -/
def boundNames (name : String) : List String :=
  [receiver name, "text", "parsed", "err"]

/-- What is longer than the receiver and is none of the other words is not bound. -/
theorem not_mem_boundNames {name s : String} (h : 3 ≤ s.toList.length)
    (hs : s ∉ ["text", "parsed", "err"]) : s ∉ boundNames name := by
  rw [boundNames, List.mem_cons, not_or]
  refine ⟨?_, hs⟩
  intro heq
  have hle := length_receiver_le name
  rw [heq] at h
  omega

/-- Predeclared words and imports have three letters or more. -/
theorem reserved_not_mem_boundNames (name : String) :
    ∀ word ∈ reserved, word ∉ boundNames name := by
  have hlengths : ∀ word ∈ reserved, 3 ≤ word.toList.length := by decide
  have hothers : ∀ word ∈ ["text", "parsed", "err"], word ∉ reserved := by decide
  intro word hword
  exact not_mem_boundNames (hlengths word hword) fun hmem => hothers word hmem hword

/-- What is made of the name is longer and has a capital. -/
theorem declared_not_mem_boundNames {name s : String} {kind : Kind}
    (h : s ∈ declaredNames name kind) (hne : s ≠ name) : s ∉ boundNames name := by
  have hlength := four_le_length_of_mem_declaredNames h hne
  refine not_mem_boundNames (by omega) ?_
  -- The parameter and the variables are as long, but in small letters.
  intro hmem
  have hnone : ∀ word ∈ ["text", "parsed", "err"], word.toList.any Char.isUpper = false := by decide
  obtain ⟨c, hc, hupper⟩ := exists_isUpper_of_mem_declaredNames h hne
  exact List.any_eq_false.mp (hnone s hmem) c hc hupper

/-- Whatever a method binds starts with an ASCII small letter, and no constant does. -/
theorem constant_not_mem_boundNames (name value : String) : constant value ∉ boundNames name := by
  intro hmem
  obtain ⟨c, hc, hlower⟩ : ∃ c ∈ (constant value).toList.head?, c.isLower = true := by
    rcases List.mem_cons.mp hmem with hreceiver | hword
    · rw [hreceiver]
      exact isLower_of_mem_head?_receiver name
    · have hall : ∀ word ∈ ["text", "parsed", "err"],
          word.toList.head?.any Char.isLower = true := by decide
      exact (Option.any_eq_true _ _).mp (hall _ hword)
  rw [isLower_of_mem_head?_constant hc] at hlower
  exact Bool.noConfusion hlower

/-! ### The receiver -/

theorem receiver_not_mem_declaredNames (name : String) (kind : Kind) :
    receiver name ∉ declaredNames name kind := fun hmem =>
  declared_not_mem_boundNames hmem (receiver_ne name) List.mem_cons_self

theorem receiver_ne_constant (name value : String) : receiver name ≠ constant value := by
  intro heq
  exact constant_not_mem_boundNames name value (heq ▸ List.mem_cons_self)

theorem receiver_not_mem_reserved (name : String) : receiver name ∉ reserved := fun hmem =>
  reserved_not_mem_boundNames name _ hmem List.mem_cons_self

/-- The other names that the methods bind are longer than the receiver. -/
theorem receiver_not_mem_others (name : String) : receiver name ∉ ["text", "parsed", "err"] := by
  intro hmem
  have hlengths : ∀ word ∈ ["text", "parsed", "err"], 2 < word.toList.length := by decide
  exact absurd (length_receiver_le name) (Nat.not_le.mpr (hlengths _ hmem))

end GoEnum.Naming

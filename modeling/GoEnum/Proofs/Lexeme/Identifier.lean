/-
  The characters of identifiers.

  An identifier is a non-empty run of letters, numbers and `_`. So none of the
  characters that end a word in a line of source text (blanks, brackets, commas,
  quotes) occurs in one.
-/
import GoEnum.Lexeme.Identifier
import GoEnum.Proofs.Text.Ascii
import GoEnum.Proofs.Text.Lines

namespace GoEnum.Lexeme

/-- Whether a character can occur in an identifier. -/
def isWordChar (c : Char) : Bool :=
  c == '_' || Text.isAlphanumeric c

theorem isWordChar_of_isIdentifierChars {cs : List Char} (h : isIdentifierChars cs = true) :
    ∀ c ∈ cs, isWordChar c = true := by
  cases cs with
  | nil => simp [isIdentifierChars] at h
  | cons c cs =>
    simp only [isIdentifierChars, Bool.and_eq_true, List.all_eq_true] at h
    obtain ⟨⟨hfirst, -⟩, hrest⟩ := h
    intro d hd
    rcases List.mem_cons.mp hd with rfl | hd
    · rcases Bool.or_eq_true _ _ ▸ hfirst with hblank | hletter
      · simp [isWordChar, hblank]
      · simp [isWordChar, Text.isAlphanumeric, hletter]
    · exact hrest d hd

theorem isWordChar_of_isIdentifier {s : String} (h : isIdentifier s = true) :
    ∀ c ∈ s.toList, isWordChar c = true :=
  isWordChar_of_isIdentifierChars h

theorem toList_ne_nil_of_isIdentifier {s : String} (h : isIdentifier s = true) :
    s.toList ≠ [] := by
  intro hnil
  simp [isIdentifier, hnil, isIdentifierChars] at h

/-- A character that is in no identifier is not in this one. -/
theorem not_mem_of_isIdentifier {s : String} (h : isIdentifier s = true) {c : Char}
    (hc : isWordChar c = false) : c ∉ s.toList := by
  intro hmem
  rw [isWordChar_of_isIdentifier h c hmem] at hc
  exact Bool.noConfusion hc

theorem isWordChar_ascii {c : Char} (hc : c.toNat < 0x80) :
    isWordChar c = (c == '_' || c.isAlphanum) := by
  rw [isWordChar, Text.isAlphanumeric_ascii hc]

theorem isWordChar_newline : isWordChar '\n' = false := isWordChar_ascii (by decide)

theorem isWordChar_space : isWordChar ' ' = false := isWordChar_ascii (by decide)

theorem isWordChar_paren : isWordChar '(' = false := isWordChar_ascii (by decide)

theorem oneLine_of_isIdentifier {s : String} (h : isIdentifier s = true) : Text.OneLine s :=
  not_mem_of_isIdentifier h isWordChar_newline

end GoEnum.Lexeme

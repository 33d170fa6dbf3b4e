/-
  How the Go language spells identifiers, and what is accepted as one.

  The language builds an identifier from letters, decimal digits and `_`
  (`IsGoIdentifier`). What is accepted as one here is built from alphabetic characters,
  numbers of all kinds and `_`. Every letter is alphabetic and every decimal digit a
  number, so each identifier of the language is accepted, the blank one apart. The
  converse fails on the characters that have the property and not the category
  (`isForeign`): vowel signs and other marks, letter numbers, circled letters,
  superscripts and fractions. These are all that goes wrong (`isGoIdentifier_iff`).
-/
import GoEnum.Proofs.Lexeme.Identifier
import GoEnum.Proofs.Text.Category

namespace GoEnum.Lexeme

open Text

/-! ### Identifiers of the language -/

/-- A character that can start an identifier of the language. -/
def opensGoIdentifier (c : Char) : Bool :=
  c == '_' || isLetter c

/-- Characters that spell an identifier of the language: a letter or `_`, then letters, decimal
digits and `_`. -/
def IsGoIdentifier : List Char → Prop
  | [] => False
  | c :: cs =>
    opensGoIdentifier c = true ∧ ∀ d ∈ cs, opensGoIdentifier d = true ∨ isDecimalDigit d = true

instance : DecidablePred IsGoIdentifier
  | [] => isFalse id
  | _ :: cs => @instDecidableAnd _ _ _ (List.decidableBAll _ cs)

/-! ### Characters -/

/-- A character that is alphabetic but no letter, or a number but no decimal digit. It is accepted
in an identifier and is in no identifier of the language. -/
def isForeign (c : Char) : Bool :=
  (isAlphabetic c && !isLetter c) || (isNumeric c && !isDecimalDigit c)

variable {c : Char}

theorem isForeign_blank : isForeign '_' = false := by
  have halphabetic : isAlphabetic '_' = false := isAlphabetic_ascii (by decide)
  have hnumeric : isNumeric '_' = false := isNumeric_ascii (by decide)
  rw [isForeign, halphabetic, hnumeric, Bool.false_and, Bool.false_and, Bool.or_self]

theorem isForeign_of_isLetter (h : isLetter c = true) : isForeign c = false := by
  rw [isForeign, h, isNumeric_of_isLetter h, Bool.not_true, Bool.and_false, Bool.false_and,
    Bool.or_self]

theorem isForeign_of_isDecimalDigit (h : isDecimalDigit c = true) : isForeign c = false := by
  rw [isForeign, h, isAlphabetic_of_isDecimalDigit h, Bool.not_true, Bool.and_false,
    Bool.false_and, Bool.or_self]

theorem isForeign_of_opensGoIdentifier (h : opensGoIdentifier c = true) : isForeign c = false := by
  rw [opensGoIdentifier, Bool.or_eq_true, beq_iff_eq] at h
  rcases h with rfl | hletter
  · exact isForeign_blank
  · exact isForeign_of_isLetter hletter

/-- What starts an identifier of the language is what is accepted at the start and not foreign. -/
theorem opensGoIdentifier_iff :
    opensGoIdentifier c = true ↔ (c == '_' || isAlphabetic c) = true ∧ isForeign c = false := by
  constructor
  · intro h
    refine ⟨?_, isForeign_of_opensGoIdentifier h⟩
    rw [opensGoIdentifier, Bool.or_eq_true] at h
    rw [Bool.or_eq_true]
    exact h.imp_right isAlphabetic_of_isLetter
  · rintro ⟨hopens, hforeign⟩
    rw [Bool.or_eq_true] at hopens
    rw [opensGoIdentifier, Bool.or_eq_true]
    -- What is alphabetic and no letter would be foreign.
    refine hopens.imp_right fun halphabetic => ?_
    rw [isForeign, halphabetic, Bool.true_and, Bool.or_eq_false_iff] at hforeign
    simpa using hforeign.1

/-- What goes on an identifier of the language is what is accepted in one and not foreign. -/
theorem goesOnGoIdentifier_iff :
    opensGoIdentifier c = true ∨ isDecimalDigit c = true ↔
      isWordChar c = true ∧ isForeign c = false := by
  have hword : isWordChar c = true ↔
      (c == '_' || isAlphabetic c) = true ∨ isNumeric c = true := by
    rw [isWordChar, isAlphanumeric, ← Bool.or_assoc, Bool.or_eq_true]
  rw [hword, opensGoIdentifier_iff]
  constructor
  · rintro (⟨hopens, hforeign⟩ | hdigit)
    · exact ⟨Or.inl hopens, hforeign⟩
    · exact ⟨Or.inr (isNumeric_of_isDecimalDigit hdigit), isForeign_of_isDecimalDigit hdigit⟩
  · rintro ⟨hopens | hnumeric, hforeign⟩
    · exact Or.inl ⟨hopens, hforeign⟩
    · right
      rw [isForeign, hnumeric, Bool.true_and, Bool.or_eq_false_iff] at hforeign
      simpa using hforeign.2

/-! ### Texts -/

theorem isGoIdentifier_chars_iff (cs : List Char) :
    IsGoIdentifier cs ∧ cs ≠ ['_'] ↔
      isIdentifierChars cs = true ∧ ∀ c ∈ cs, isForeign c = false := by
  cases cs with
  | nil => simp [IsGoIdentifier, isIdentifierChars]
  | cons c cs =>
    have halone : (!(c == '_' && cs.isEmpty)) = true ↔ c :: cs ≠ ['_'] := by
      simp [imp_iff_not_or]
    have hrest : cs.all (fun d => d == '_' || isAlphanumeric d) = true ↔
        ∀ d ∈ cs, isWordChar d = true := List.all_eq_true
    rw [isIdentifierChars, Bool.and_eq_true, Bool.and_eq_true, halone, hrest,
      List.forall_mem_cons, IsGoIdentifier, opensGoIdentifier_iff]
    simp only [goesOnGoIdentifier_iff]
    -- Now both sides ask the same of each character, and only the order differs.
    constructor
    · rintro ⟨⟨⟨hopens, hc⟩, hcs⟩, hne⟩
      exact ⟨⟨⟨hopens, hne⟩, fun d hd => (hcs d hd).1⟩, hc, fun d hd => (hcs d hd).2⟩
    · rintro ⟨⟨⟨hopens, hne⟩, hwords⟩, hc, hforeign⟩
      exact ⟨⟨⟨hopens, hc⟩, fun d hd => ⟨hwords d hd, hforeign d hd⟩⟩, hne⟩

/-- The identifiers of the language, the blank one apart, are the texts that are accepted as
identifiers and hold no foreign character. -/
theorem isGoIdentifier_iff (s : String) :
    IsGoIdentifier s.toList ∧ s ≠ "_" ↔
      isIdentifier s = true ∧ ∀ c ∈ s.toList, isForeign c = false := by
  have hblank : s ≠ "_" ↔ s.toList ≠ ['_'] := by
    rw [ne_eq, ← String.toList_inj]
    rfl
  rw [hblank, isIdentifier]
  exact isGoIdentifier_chars_iff s.toList

/-- A superscript two is a number of another kind: it is accepted, and the language refuses it. -/
theorem not_isGoIdentifier_square :
    isIdentifier "m²" = true ∧ ¬ (IsGoIdentifier "m²".toList ∧ "m²" ≠ "_") := by
  decide +kernel

end GoEnum.Lexeme

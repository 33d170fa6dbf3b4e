/-
  Identifiers in small letters.

  Each image in the table of small letters is alphabetic, and what the table does not
  map stays as it is. There is one exception: the capital `İ` becomes an `i` and a
  combining dot, and the dot can stand in no identifier. So the small form of an
  identifier is an identifier just if no `İ` occurs in it
  (`isIdentifier_lowercase_iff`).
-/
import GoEnum.Proofs.Lexeme.Identifier
import GoEnum.Proofs.Text.Category
import GoEnum.Proofs.Text.LetterCase
import Mathlib.Data.List.Forall2
import Mathlib.Data.List.Sort

namespace GoEnum.Lexeme

open Text

/-! ### Characters -/

set_option maxRecDepth 8000 in
/-- The images of each run lie within one run of alphabetic characters. -/
theorem alphabeticRanges_cover_lowerRuns : ∀ r ∈ lowerRuns, ∃ q ∈ alphabeticRanges,
    q.first ≤ r.target ∧ r.target + (r.last - r.first) ≤ q.last := by
  -- Once the images are in ascending order, one pass over both tables is enough.
  have hcovered : isCovered
      ((lowerRuns.map fun r => ⟨r.target, r.target + (r.last - r.first)⟩).insertionSort
        fun p q => Nat.ble p.first q.first) alphabeticRanges = true := by
    decide
  intro r hr
  exact exists_of_isCovered hcovered ⟨r.target, r.target + (r.last - r.first)⟩
    ((List.mem_insertionSort _).mpr (List.mem_map_of_mem hr))

theorem isAlphabetic_image {r : CaseRun} (hr : r ∈ lowerRuns) {n : Nat}
    (hn : r.contains n = true) : isAlphabetic (Char.ofNat (r.image n)) = true := by
  obtain ⟨q, hq, hfirst, hlast⟩ := alphabeticRanges_cover_lowerRuns r hr
  obtain ⟨-, hspan⟩ := lowerRuns_spec r hr
  obtain ⟨hlow, hhigh⟩ := image_bounds hn
  rw [isAlphabetic, inRanges_iff, toNat_ofNat_image hspan hn]
  exact ⟨q, hq, by omega, by omega⟩

/-- Whether a character can take the place of another one in an identifier because it is the same
one or is alphabetic. -/
def StandsFor (c d : Char) : Prop :=
  d = c ∨ isAlphabetic d = true

/-- The small form of any character but the dotted capital is one character that stands for it. -/
theorem toSmall_eq_singleton {c : Char} (hc : c ≠ 'İ') : ∃ d, toSmall c = [d] ∧ StandsFor c d := by
  rcases mapCase_cases lowerExpansions lowerRuns c with
    ⟨codes, hcodes, -⟩ | ⟨r, hr, hcontains, hsmall⟩ | ⟨-, hsmall⟩
  · -- The dotted capital is the only exception in the table.
    have hcode : c.toNat = 0x130 := (Prod.mk.inj (List.mem_singleton.mp hcodes)).1
    exact absurd (by rw [← Char.ofNat_toNat c, hcode]) hc
  · exact ⟨_, hsmall, Or.inr (isAlphabetic_image hr hcontains)⟩
  · exact ⟨c, hsmall, Or.inl rfl⟩

theorem toSmall_dotted : toSmall 'İ' = ['i', '\u0307'] := by decide

/-! ### Texts -/

/-- Without the dotted capital, small letters stand one for one for what was there. -/
theorem forall₂_lowercaseFrom {cs : List Char} (h : 'İ' ∉ cs) : ∀ before : List Char,
    List.Forall₂ StandsFor cs (lowercaseFrom before cs) := by
  induction cs with
  | nil => intro before; exact List.Forall₂.nil
  | cons c cs ih =>
    intro before
    obtain ⟨hc, hcs⟩ : 'İ' ≠ c ∧ 'İ' ∉ cs := by simpa using h
    rw [lowercaseFrom]
    split
    · -- A capital sigma gives one of two small letters, and both are alphabetic.
      refine List.Forall₂.cons (Or.inr ?_) (ih hcs _)
      split <;> decide
    · obtain ⟨d, hd, hstands⟩ := toSmall_eq_singleton hc.symm
      rw [hd]
      exact List.Forall₂.cons hstands (ih hcs _)

theorem isWordChar_of_forall₂ {cs ds : List Char} (h : List.Forall₂ StandsFor cs ds)
    (hcs : ∀ c ∈ cs, isWordChar c = true) : ∀ d ∈ ds, isWordChar d = true := by
  induction h with
  | nil => exact hcs
  | cons hcd _ ih =>
    rw [List.forall_mem_cons] at hcs ⊢
    refine ⟨?_, ih hcs.2⟩
    rcases hcd with rfl | hd
    · exact hcs.1
    · simp [isWordChar, isAlphanumeric, hd]

theorem isIdentifierChars_of_forall₂ {cs ds : List Char} (h : List.Forall₂ StandsFor cs ds)
    (hcs : isIdentifierChars cs = true) : isIdentifierChars ds = true := by
  cases h with
  | nil => exact hcs
  | @cons c d cs ds hcd hrest =>
    have hword := isWordChar_of_forall₂ hrest
    simp only [isIdentifierChars, Bool.and_eq_true, List.all_eq_true] at hcs ⊢
    obtain ⟨⟨hfirst, halone⟩, hcs⟩ := hcs
    refine ⟨⟨?first, ?alone⟩, hword hcs⟩
    case first =>
      rcases hcd with rfl | hd
      · exact hfirst
      · rw [hd, Bool.or_true]
    case alone =>
      rcases hcd with rfl | hd
      · -- There are as many characters as before, so none is alone that was not.
        have hlength := hrest.length_eq
        cases cs <;> cases ds <;> simp_all
      · have hblank : d ≠ '_' := by
          rintro rfl
          rw [isAlphabetic_ascii (by decide)] at hd
          exact absurd hd (by decide)
        rw [beq_false_of_ne hblank]
        rfl

/-- The dot stays behind wherever the dotted capital was. -/
theorem mem_lowercaseFrom_of_dotted {cs : List Char} (h : 'İ' ∈ cs) : ∀ before : List Char,
    '\u0307' ∈ lowercaseFrom before cs := by
  induction cs with
  | nil => exact absurd h List.not_mem_nil
  | cons c cs ih =>
    intro before
    rw [lowercaseFrom, List.mem_append]
    rcases List.mem_cons.mp h with rfl | h
    · left
      rw [if_neg (by decide), toSmall_dotted]
      decide
    · exact Or.inr (ih h _)

set_option maxRecDepth 8000 in
theorem isWordChar_combiningDot : isWordChar '\u0307' = false := by decide

theorem not_isIdentifier_of_dotted {s t : String} (hs : 'İ' ∈ s.toList)
    (ht : ∀ c ∈ (lowercase s).toList, c ∈ t.toList) : isIdentifier t ≠ true := by
  intro h
  refine not_mem_of_isIdentifier h isWordChar_combiningDot (ht _ ?_)
  rw [lowercase, String.toList_ofList]
  exact mem_lowercaseFrom_of_dotted hs []

/-- In small letters, an identifier is an identifier again unless the dotted capital occurs. -/
theorem isIdentifier_lowercase_iff {s : String} (h : isIdentifier s = true) :
    isIdentifier (lowercase s) = true ↔ 'İ' ∉ s.toList := by
  constructor
  · intro hsmall hmem
    exact not_isIdentifier_of_dotted hmem (fun _ hc => hc) hsmall
  · intro hnone
    rw [isIdentifier, lowercase, String.toList_ofList]
    exact isIdentifierChars_of_forall₂ (forall₂_lowercaseFrom hnone []) h

/-- An identifier goes on with any characters that occur in identifiers. -/
theorem isIdentifier_append {s t : String} (hs : isIdentifier s = true)
    (ht : ∀ c ∈ t.toList, isWordChar c = true) : isIdentifier (s ++ t) = true := by
  cases hcs : s.toList with
  | nil => exact absurd hcs (toList_ne_nil_of_isIdentifier hs)
  | cons c cs =>
    simp only [isIdentifier, String.toList_append, hcs, List.cons_append, isIdentifierChars,
      Bool.and_eq_true, List.all_append, List.all_eq_true] at hs ⊢
    obtain ⟨⟨hfirst, halone⟩, hrest⟩ := hs
    refine ⟨⟨hfirst, ?_⟩, hrest, ht⟩
    cases cs <;> simp_all

end GoEnum.Lexeme

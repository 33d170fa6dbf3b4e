/-
  The names of a file as words in its lines.

  No name that a file is made from leaves a gap in a line. For the name of the
  enumeration and for the constants that is part of their being identifiers, and no
  small form brings a gap in. A value is no identifier, but its constant is, which
  has all of its characters but the first; and a first character that leaves a gap
  would have stayed as it is (`isGapless_of_constant`).
-/
import GoEnum.Proofs.Lexeme.Literal
import GoEnum.Proofs.Naming.EntryNames
import GoEnum.Proofs.Naming.SmallForms
import GoEnum.Proofs.Text.Spacing

namespace GoEnum.Naming

open Text

/-! ### Names without gaps -/

theorem isWordChar_of_leavesGap {c : Char} (h : leavesGap c = true) :
    Lexeme.isWordChar c = false := by
  have hlt : c.toNat < 0x80 := Nat.lt_of_le_of_lt (of_decide_eq_true h) (by decide)
  rw [Lexeme.isWordChar_ascii hlt]
  exact of_leavesGap (fun c => (c == '_' || c.isAlphanum) = false) (by decide) h

theorem isGapless_of_isIdentifier {s : String} (h : Lexeme.isIdentifier s = true) :
    IsGapless s := by
  intro c hc
  by_contra hgap
  rw [Bool.not_eq_false] at hgap
  exact Lexeme.not_mem_of_isIdentifier h (isWordChar_of_leavesGap hgap) hc

theorem isPhrase_of_isIdentifier {s : String} (h : Lexeme.isIdentifier s = true) : IsPhrase s :=
  isPhrase_of_isGapless (Lexeme.toList_ne_nil_of_isIdentifier h) (isGapless_of_isIdentifier h)

/-- No small form leaves a gap that was not there before. -/
theorem isGapless_lowercase {s : String} (h : IsGapless s) : IsGapless (lowercase s) := by
  intro c hc
  rcases eq_or_le_of_mem_lowercase hc with ⟨hold, -⟩ | hle
  · exact h c hold
  · rw [leavesGap, decide_eq_false_iff_not]
    omega

/-- The characters of an escape leave no gap. -/
theorem leavesGap_of_mem_escapeInLiteral {c d : Char} (h : d ∈ Lexeme.escapeInLiteral c)
    (hne : d ≠ c) : leavesGap d = false := by
  have hescapes : ['\\', '"', 'n', 't'].all (!leavesGap ·) = true := by decide
  have hmem : d ∈ ['\\', '"', 'n', 't'] := by
    unfold Lexeme.escapeInLiteral at h
    split_ifs at h <;> simp only [List.mem_cons, List.not_mem_nil, or_false] at h ⊢ <;> tauto
  simpa using List.all_eq_true.mp hescapes d hmem

theorem isGapless_literal {s : String} (h : IsGapless s) : IsGapless (Lexeme.literal s) := by
  intro c hc
  rw [Lexeme.literal, String.toList_ofList, Lexeme.literalChars, List.mem_cons, List.mem_append,
    List.mem_singleton, List.mem_flatMap] at hc
  rcases hc with rfl | ⟨d, hd, hc⟩ | rfl
  · decide
  · by_cases heq : c = d
    · exact heq ▸ h d hd
    · exact leavesGap_of_mem_escapeInLiteral hc heq
  · decide

/-- A gap has no capital form, so the value has no gap where its constant has none. -/
theorem isGapless_of_constant {value : String}
    (h : Lexeme.isIdentifier (constant value) = true) : IsGapless value := by
  have hchars := isGapless_of_isIdentifier h
  unfold IsGapless at hchars ⊢
  rw [constant, capitalize, String.toList_ofList] at hchars
  cases hcs : value.toList with
  | nil => simp
  | cons c cs =>
    rw [hcs, capitalizeFirst, List.forall_mem_append] at hchars
    refine List.forall_mem_cons.mpr ⟨?_, hchars.2⟩
    by_contra hgap
    rw [Bool.not_eq_false] at hgap
    have hself : toCapital c = [c] :=
      of_leavesGap (fun c => toCapital c = [c]) (by decide +kernel) hgap
    rw [hself] at hchars
    rw [hchars.1 c List.mem_cons_self] at hgap
    exact Bool.noConfusion hgap

/-! ### Words -/

/-- Each name that a file is made from can stand for a word in a line. -/
structure AreWords (name : String) (values : List String) : Prop where
  isPhrase_name : IsPhrase name
  isPhrase_receiver : IsPhrase (receiver name)
  isPhrase_packageName : IsPhrase (packageName name)
  isPhrase_constant : ∀ value ∈ values, IsPhrase (constant value)
  isPhrase_literal : ∀ value ∈ values, IsPhrase (Lexeme.literal value)

/-- A name and values that can be used together give words. -/
theorem areWords {name : String} {kind : Kind} {values : List String}
    (h : Compatible name kind values) : AreWords name values := by
  have hname := h.isIdentifier_name
  have hgapless := isGapless_of_isIdentifier hname
  refine ⟨isPhrase_of_isIdentifier hname, ?receiver, ?package,
    fun value hvalue => isPhrase_of_isIdentifier (h.identifiers value hvalue), ?literal⟩
  case receiver =>
    rcases receiver_cases name with ⟨hletter, -, c, hc, -⟩ | hfallback
    · have hne : (receiver name).toList ≠ [] := List.ne_nil_of_mem (List.mem_of_mem_head? hc)
      refine isPhrase_of_isGapless hne ?_
      rw [hletter]
      apply isGapless_lowercase
      intro d hd
      rw [firstChar, String.toList_ofList] at hd
      exact hgapless d (List.mem_of_mem_take hd)
    · rw [hfallback]
      exact isPhrase_of_isIdentifier (isIdentifier_fallback name)
  case package =>
    have hne : (packageName name).toList ≠ [] := by simpa using packageName_ne_empty hname
    exact isPhrase_of_isGapless hne (isGapless_lowercase hgapless)
  case literal =>
    intro value hvalue
    have hne : (Lexeme.literal value).toList ≠ [] := by
      rw [Lexeme.literal, String.toList_ofList]
      exact List.cons_ne_nil _ _
    exact isPhrase_of_isGapless hne
      (isGapless_literal (isGapless_of_constant (h.identifiers value hvalue)))

end GoEnum.Naming

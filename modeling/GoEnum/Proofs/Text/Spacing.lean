/-
  The gaps in a line.

  A tidy line is indented by tabs, has words with single blanks between them, and
  ends with a word. A reader goes over the line and keeps no more than what kind of
  character came before (`Spacing.step`), so a line that is put together from parts
  is read part by part (`Spacing.after_append`). It is tidy just if the reader ends
  in a word, and such a line ends in no gap (`IsTidy.leavesGap_getLast?`) and has no
  two blanks in a row (`IsTidy.not_consecutive_blanks`).
-/
import Mathlib.Data.List.Infix
import Mathlib.Logic.Basic

namespace GoEnum.Text

/-- Whether a character leaves a gap in a line: a blank, a tab, or another control character. -/
def leavesGap (c : Char) : Bool :=
  c.toNat ≤ 0x20

/-- There are few characters that leave a gap, so what holds of them can be tried out. -/
theorem of_leavesGap (p : Char → Prop) (h : ∀ n ≤ 0x20, p (Char.ofNat n)) {c : Char}
    (hc : leavesGap c = true) : p c := by
  have hp := h c.toNat (of_decide_eq_true hc)
  rwa [Char.ofNat_toNat] at hp

/-- Whether no character of a text leaves a gap. -/
def IsGapless (s : String) : Prop :=
  ∀ c ∈ s.toList, leavesGap c = false

/-- What the reader of a line has come to. -/
inductive Spacing where
  /-- Nothing but tabs. -/
  | indentation
  /-- A character that leaves no gap. -/
  | word
  /-- A single blank behind a word. -/
  | blank
  /-- A gap that a tidy line does not have; there is no way back from it. -/
  | broken
deriving DecidableEq

namespace Spacing

/-- The reader goes on by a word. -/
def afterWord : Spacing → Spacing
  | .broken => .broken
  | _ => .word

/-- The reader goes on by a character that leaves a gap. -/
def afterGap : Spacing → Char → Spacing
  | .indentation, '\t' => .indentation
  | .word, ' ' => .blank
  | _, _ => .broken

/-- The reader goes on by one character. -/
def step (state : Spacing) (c : Char) : Spacing :=
  if leavesGap c then state.afterGap c else state.afterWord

/-- The reader goes on by a text. -/
def after (state : Spacing) (s : String) : Spacing :=
  s.toList.foldl step state

@[simp] theorem after_append (state : Spacing) (s t : String) :
    state.after (s ++ t) = (state.after s).after t := by
  rw [after, String.toList_append, List.foldl_append, after, after]

theorem foldl_step_broken (cs : List Char) : cs.foldl step .broken = .broken := by
  induction cs with
  | nil => rfl
  | cons c cs ih =>
    have hstep : step .broken c = .broken := ite_self _
    rw [List.foldl_cons, hstep, ih]

theorem step_eq_afterWord {c : Char} (h : leavesGap c = false) (state : Spacing) :
    state.step c = state.afterWord := by
  rw [step, h, if_neg Bool.false_ne_true]

/-- A gap does not lead to a word. -/
theorem leavesGap_of_step {state : Spacing} {c : Char} (h : state.step c = .word) :
    leavesGap c = false := by
  by_contra hgap
  rw [step, if_pos (by simpa using hgap)] at h
  unfold afterGap at h
  split at h <;> exact Spacing.noConfusion h

theorem step_step_blank (state : Spacing) : (state.step ' ').step ' ' = .broken := by
  cases state <;> rfl

end Spacing

/-! ### Phrases -/

/-- Whether a text can stand for a word in a line: it starts and ends with words, and has single
blanks between them. -/
def IsPhrase (s : String) : Prop :=
  Spacing.blank.after s = .word

instance : DecidablePred IsPhrase := fun s =>
  inferInstanceAs (Decidable (Spacing.blank.after s = .word))

/-- A phrase is read as a word is, wherever it stands. -/
theorem IsPhrase.after_eq {s : String} (h : IsPhrase s) (state : Spacing) :
    state.after s = state.afterWord := by
  unfold IsPhrase at h
  cases hcs : s.toList with
  | nil => simp [Spacing.after, hcs] at h
  | cons c cs =>
    -- Behind a blank, a gap would break the line, so the first character leaves none.
    have hc : leavesGap c = false := by
      by_contra hgap
      have hbroken : Spacing.blank.step c = .broken := if_pos (by simpa using hgap)
      rw [Spacing.after, hcs, List.foldl_cons, hbroken, Spacing.foldl_step_broken] at h
      exact Spacing.noConfusion h
    have hword : cs.foldl Spacing.step .word = .word := by
      rwa [Spacing.after, hcs, List.foldl_cons, Spacing.step_eq_afterWord hc] at h
    rw [Spacing.after, hcs, List.foldl_cons, Spacing.step_eq_afterWord hc]
    cases state with
    | broken => exact Spacing.foldl_step_broken cs
    | indentation | word | blank => exact hword

/-- What leaves no gap is a phrase. -/
theorem isPhrase_of_isGapless {s : String} (hne : s.toList ≠ []) (h : IsGapless s) :
    IsPhrase s := by
  have hword : ∀ cs : List Char, (∀ c ∈ cs, leavesGap c = false) →
      cs.foldl Spacing.step .word = .word := by
    intro cs
    induction cs with
    | nil => exact fun _ => rfl
    | cons c cs ih =>
      intro hcs
      obtain ⟨hc, hcs⟩ := List.forall_mem_cons.mp hcs
      rw [List.foldl_cons, Spacing.step_eq_afterWord hc]
      exact ih hcs
  unfold IsGapless at h
  unfold IsPhrase Spacing.after
  cases hcs : s.toList with
  | nil => exact absurd hcs hne
  | cons c cs =>
    rw [hcs] at h
    obtain ⟨hc, hrest⟩ := List.forall_mem_cons.mp h
    rw [List.foldl_cons, Spacing.step_eq_afterWord hc]
    exact hword cs hrest

/-- Phrases in a list, with a comma and a blank after each but the last. -/
theorem isPhrase_intercalate {phrases : List String} (hne : phrases ≠ [])
    (h : ∀ s ∈ phrases, IsPhrase s) : IsPhrase (", ".intercalate phrases) := by
  induction phrases with
  | nil => exact absurd rfl hne
  | cons s phrases ih =>
    obtain ⟨hs, hphrases⟩ := List.forall_mem_cons.mp h
    by_cases hnil : phrases = []
    · simpa [hnil] using hs
    · have hrest := ih hnil hphrases
      rw [String.intercalate_cons_of_ne_nil hnil]
      simp only [IsPhrase, Spacing.after_append, hs.after_eq, hrest.after_eq]
      decide

/-! ### Tidy lines -/

/-- Whether a line is tidy: tabs, then words with single blanks between them. -/
def IsTidy (l : String) : Prop :=
  Spacing.indentation.after l = .word

instance : DecidablePred IsTidy := fun l =>
  inferInstanceAs (Decidable (Spacing.indentation.after l = .word))

/-- How far a line is indented does not matter. -/
@[simp] theorem isTidy_tab_append (l : String) : IsTidy ("\t" ++ l) ↔ IsTidy l := by
  rw [IsTidy, Spacing.after_append]
  rfl

/-- A tidy line can be followed by what keeps to a word. -/
theorem IsTidy.append {l s : String} (h : IsTidy l) (hs : Spacing.word.after s = .word) :
    IsTidy (l ++ s) := by
  rw [IsTidy, Spacing.after_append, h, hs]

theorem IsTidy.ne_empty {l : String} (h : IsTidy l) : l ≠ "" := by
  rintro rfl
  exact absurd h (by decide)

/-- A tidy line does not end in a gap. -/
theorem IsTidy.leavesGap_getLast? {l : String} (h : IsTidy l) :
    ∀ c ∈ l.toList.getLast?, leavesGap c = false := by
  intro c hc
  obtain ⟨front, hfront⟩ := List.getLast?_eq_some_iff.mp hc
  rw [IsTidy, Spacing.after, hfront, List.foldl_concat] at h
  exact Spacing.leavesGap_of_step h

/-- A tidy line has no two blanks in a row. -/
theorem IsTidy.not_consecutive_blanks {l : String} (h : IsTidy l) : ¬[' ', ' '] <:+: l.toList := by
  rintro ⟨front, back, hsplit⟩
  rw [IsTidy, Spacing.after, ← hsplit, List.foldl_append, List.foldl_append, List.foldl_cons,
    List.foldl_cons, Spacing.step_step_blank, List.foldl_nil, Spacing.foldl_step_broken] at h
  exact Spacing.noConfusion h

end GoEnum.Text

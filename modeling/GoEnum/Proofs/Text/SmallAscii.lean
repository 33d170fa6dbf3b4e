/-
  Small forms that are ASCII.

  An ASCII letter has its ASCII small form, and of the other characters only the sign
  for a kelvin has a small form in ASCII, the letter `k`. So what is spelt in small
  letters with ASCII letters other than `k` was spelt with ASCII letters before
  (`lowercase_eq_iff`).
-/
import GoEnum.Proofs.Text.Ascii
import GoEnum.Proofs.Text.LetterCase

namespace GoEnum.Text

/-! ### Characters -/

theorem toLower_of_isUpper {c : Char} (h : c.isUpper = true) :
    c.toLower = Char.ofNat (c.toNat + 0x20) := by
  have hcases : ∀ n ∈ List.range' 0x41 26,
      (Char.ofNat n).toLower = Char.ofNat ((Char.ofNat n).toNat + 0x20) := by decide
  have hrange := isUpper_iff.mp h
  have hc := hcases c.toNat (by simp only [List.mem_range'_1]; omega)
  rwa [Char.ofNat_toNat] at hc

theorem isLower_toLower {c : Char} (h : c.isUpper = true) : c.toLower.isLower = true := by
  have hrange := isUpper_iff.mp h
  rw [toLower_of_isUpper h, isLower_iff, toNat_ofNat (by simp [Nat.isValidChar]; omega)]
  omega

theorem toLower_of_not_isUpper {c : Char} (h : c.isUpper = false) : c.toLower = c :=
  dif_neg (of_decide_eq_false h)

/-- Only ASCII letters are brought to ASCII letters. -/
theorem toNat_lt_of_toLower {c : Char} (h : c.toLower.toNat < 0x80) : c.toNat < 0x80 := by
  cases hupper : c.isUpper with
  | true =>
    have hrange := isUpper_iff.mp hupper
    omega
  | false => rwa [toLower_of_not_isUpper hupper] at h

set_option maxRecDepth 4000 in
/-- The first run is that of the ASCII capitals. The others hold no ASCII character, and only the
kelvin sign among them has an image that is one. -/
theorem lowerRuns_ascii : ∀ r ∈ lowerRuns, r = ⟨0x41, 0x5A, 1, 0x61⟩ ∨
    (0x80 ≤ r.first ∧ (r = ⟨0x212A, 0x212A, 1, 0x6B⟩ ∨ 0x80 ≤ r.target)) := by
  decide

/-- The small form of a character is the ASCII small form. Only beyond ASCII is it something else:
two characters for the dotted capital, the letter `k` for the kelvin sign, and otherwise one
character that is not ASCII either. -/
theorem toSmall_cases (c : Char) :
    toSmall c = [c.toLower] ∨
    (0x80 ≤ c.toNat ∧
      (toSmall c = ['i', '\u0307'] ∨ ∃ d, toSmall c = [d] ∧ (d = 'k' ∨ 0x80 ≤ d.toNat))) := by
  unfold toSmall
  rcases mapCase_cases lowerExpansions lowerRuns c with
    ⟨codes, hcodes, hsmall⟩ | ⟨r, hr, hcontains, hsmall⟩ | ⟨hnone, hsmall⟩ <;> rw [hsmall]
  · -- The dotted capital is the only exception in the table.
    obtain ⟨hcode, rfl⟩ := Prod.mk.inj (List.mem_singleton.mp hcodes)
    exact Or.inr ⟨by omega, Or.inl (by decide)⟩
  · have hrange := hcontains
    simp only [CaseRun.contains, Bool.and_eq_true, decide_eq_true_eq] at hrange
    obtain ⟨⟨hfirst, hlast⟩, -⟩ := hrange
    rcases lowerRuns_ascii r hr with rfl | ⟨hbelow, himage⟩
    · left
      have hupper : c.isUpper = true := isUpper_iff.mpr ⟨hfirst, hlast⟩
      have hcode : CaseRun.image ⟨0x41, 0x5A, 1, 0x61⟩ c.toNat = c.toNat + 0x20 := by
        simp only [CaseRun.image] at hfirst ⊢
        omega
      rw [hcode, toLower_of_isUpper hupper]
    · refine Or.inr ⟨by omega, Or.inr ⟨_, rfl, ?_⟩⟩
      rcases himage with rfl | htarget
      · left
        have hcode : c.toNat = 0x212A := Nat.le_antisymm hlast hfirst
        rw [hcode]
        rfl
      · right
        obtain ⟨-, hspan⟩ := lowerRuns_spec r hr
        rw [toNat_ofNat_image hspan hcontains]
        exact Nat.le_trans htarget (image_bounds hcontains).1
  · left
    have hupper : c.isUpper = false := by
      rw [Bool.eq_false_iff, ne_eq, isUpper_iff]
      exact fun hcapital => mapped?_lowerRuns_of_capital hcapital hnone
    rw [toLower_of_not_isUpper hupper]

/-! ### Texts -/

theorem lowercaseFrom_of_ascii {cs : List Char} (h : ∀ c ∈ cs, c.toNat < 0x80) :
    ∀ before, lowercaseFrom before cs = cs.map Char.toLower := by
  induction cs with
  | nil => intro before; rfl
  | cons c cs ih =>
    intro before
    obtain ⟨hc, hcs⟩ := List.forall_mem_cons.mp h
    have hsigma : c ≠ 'Σ' := by
      rintro rfl
      exact absurd hc (by decide)
    rw [lowercaseFrom, if_neg hsigma, ih hcs, List.map_cons]
    rcases toSmall_cases c with hsmall | ⟨hle, -⟩
    · rw [hsmall]
      rfl
    · omega

/-- What comes into a text when it is brought to small letters: ASCII small forms, small letters,
and characters beyond ASCII. -/
theorem mem_lowercaseFrom_cases {cs : List Char} {d : Char} : ∀ {before : List Char},
    d ∈ lowercaseFrom before cs →
      d ∈ cs.map Char.toLower ∨ d.isLower = true ∨ 0x80 ≤ d.toNat := by
  induction cs with
  | nil => intro before h; exact absurd h List.not_mem_nil
  | cons c cs ih =>
    intro before h
    rw [lowercaseFrom] at h
    rw [List.map_cons, List.mem_cons]
    rcases List.mem_append.mp h with hc | hcs
    · split at hc
      · -- Both small forms of a sigma are Greek.
        rw [List.mem_singleton] at hc
        rw [hc]
        split <;> exact Or.inr (Or.inr (by decide))
      · rcases toSmall_cases c with hsmall | ⟨-, hsmall | ⟨e, hsmall, hforeign⟩⟩ <;>
          rw [hsmall] at hc
        · exact Or.inl (Or.inl (List.mem_singleton.mp hc))
        · rw [List.mem_cons, List.mem_singleton] at hc
          rcases hc with rfl | rfl
          · exact Or.inr (Or.inl (by decide))
          · exact Or.inr (Or.inr (by decide))
        · rw [List.mem_singleton.mp hc]
          rcases hforeign with rfl | hle
          · exact Or.inr (Or.inl (by decide))
          · exact Or.inr (Or.inr hle)
    · rcases ih hcs with hmem | hforeign
      · exact Or.inl (Or.inr hmem)
      · exact Or.inr hforeign

theorem mem_lowercase_cases {s : String} {d : Char} (h : d ∈ (lowercase s).toList) :
    d ∈ s.toList.map Char.toLower ∨ d.isLower = true ∨ 0x80 ≤ d.toNat := by
  rw [lowercase, String.toList_ofList] at h
  exact mem_lowercaseFrom_cases h

/-- The small form of one character has at most two. -/
theorem length_lowercase_firstChar_le (s : String) :
    (lowercase (firstChar s)).toList.length ≤ 2 := by
  rw [lowercase, firstChar, String.toList_ofList, String.toList_ofList]
  cases s.toList with
  | nil => exact Nat.zero_le _
  | cons c cs =>
    rw [List.take_succ_cons, List.take_zero, lowercaseFrom]
    split
    · simp [lowercaseFrom]
    · rcases toSmall_cases c with hsmall | ⟨-, hsmall | ⟨d, hsmall, -⟩⟩ <;>
        simp [hsmall, lowercaseFrom]

/-- Small letters that are ASCII letters other than `k` come from ASCII letters. -/
theorem lowercaseFrom_eq_map {cs : List Char} : ∀ {before : List Char},
    (∀ d ∈ lowercaseFrom before cs, d.toNat < 0x80 ∧ d ≠ 'k') →
      lowercaseFrom before cs = cs.map Char.toLower := by
  induction cs with
  | nil => intro before h; rfl
  | cons c cs ih =>
    intro before h
    rw [lowercaseFrom, List.forall_mem_append] at h
    obtain ⟨hc, hcs⟩ := h
    have hsigma : c ≠ 'Σ' := by
      -- Both small forms of a sigma are Greek.
      rintro rfl
      rw [if_pos rfl] at hc
      have hascii := (hc _ (List.mem_singleton_self _)).1
      split at hascii <;> exact absurd hascii (by decide)
    rw [if_neg hsigma] at hc
    rw [lowercaseFrom, if_neg hsigma, ih hcs, List.map_cons]
    rcases toSmall_cases c with hsmall | ⟨-, hsmall | ⟨d, hsmall, hforeign⟩⟩
    · rw [hsmall]
      rfl
    · -- The dot above the letter is no ASCII character.
      rw [hsmall] at hc
      exact absurd (hc '\u0307' (by simp)).1 (by decide)
    · rw [hsmall, List.forall_mem_singleton] at hc
      rcases hforeign with hk | hle
      · exact absurd hk hc.2
      · omega

/-- What is spelt with ASCII letters other than `k` is the small form of what differs from it in the
case of ASCII letters, and of nothing else. -/
theorem lowercase_eq_iff {s t : String} (ht : ∀ c ∈ t.toList, c.toNat < 0x80 ∧ c ≠ 'k') :
    lowercase s = t ↔ s.toList.map Char.toLower = t.toList := by
  rw [← String.toList_inj, lowercase, String.toList_ofList]
  constructor
  · intro h
    rw [← h] at ht
    rw [← lowercaseFrom_eq_map ht, h]
  · intro h
    have hascii : ∀ c ∈ s.toList, c.toNat < 0x80 := by
      intro c hc
      have hmem : c.toLower ∈ t.toList := h ▸ List.mem_map_of_mem hc
      exact toNat_lt_of_toLower (ht _ hmem).1
    rw [lowercaseFrom_of_ascii hascii, h]

end GoEnum.Text

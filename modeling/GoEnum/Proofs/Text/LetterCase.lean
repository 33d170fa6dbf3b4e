/-
  What small letters look like.

  The images in the tables of small letters all come after the ASCII capitals, and
  each ASCII capital has an image. So a small form is either the character itself,
  which is then no ASCII capital, or a character from `a` on
  (`eq_or_le_of_mem_toSmall`). It follows that a text in small letters has no
  ASCII capitals, has no character below `a` that was not there before, and is not
  shorter than the text itself.
-/
import GoEnum.Text.LetterCase

namespace GoEnum.Text

/-! ### Characters -/

theorem toNat_ofNat {n : Nat} (h : n.isValidChar) : (Char.ofNat n).toNat = n := by
  rw [Char.ofNat, dif_pos h]
  rfl

theorem exists_run_of_mapped? {runs : List CaseRun} {n m : Nat} (h : mapped? runs n = some m) :
    ∃ r ∈ runs, r.contains n = true ∧ m = r.image n := by
  obtain ⟨r, hr, rfl⟩ := Option.map_eq_some_iff.mp h
  have hcontains : r.contains n = true :=
    List.find?_some (p := fun q : CaseRun => q.contains n) hr
  exact ⟨r, List.mem_of_find?_eq_some hr, hcontains, rfl⟩

/-- The images of a run are as far from its target as its code points are from its start. -/
theorem image_bounds {r : CaseRun} {n : Nat} (h : r.contains n = true) :
    r.target ≤ r.image n ∧ r.image n ≤ r.target + (r.last - r.first) := by
  simp only [CaseRun.contains, Bool.and_eq_true, decide_eq_true_eq] at h
  unfold CaseRun.image
  omega

/-- A case mapping takes a character to what its exception is spelt with, or to its image under a
run that contains it, or to itself if no run does. -/
theorem mapCase_cases (expansions : List (Nat × List Nat)) (runs : List CaseRun) (c : Char) :
    (∃ codes, (c.toNat, codes) ∈ expansions ∧ mapCase expansions runs c = codes.map Char.ofNat) ∨
    (∃ r ∈ runs, r.contains c.toNat = true ∧
      mapCase expansions runs c = [Char.ofNat (r.image c.toNat)]) ∨
    (mapped? runs c.toNat = none ∧ mapCase expansions runs c = [c]) := by
  unfold mapCase
  cases hcodes : expansions.lookup c.toNat with
  | some codes =>
    obtain ⟨before, after, rfl, -⟩ := List.lookup_eq_some_iff.mp hcodes
    exact Or.inl ⟨codes, List.mem_append_right _ List.mem_cons_self, rfl⟩
  | none =>
    right
    cases hrun : mapped? runs c.toNat with
    | none => exact Or.inr ⟨rfl, by rw [Option.getD_none, Char.ofNat_toNat]⟩
    | some n =>
      obtain ⟨r, hr, hcontains, rfl⟩ := exists_run_of_mapped? hrun
      exact Or.inl ⟨r, hr, hcontains, rfl⟩

/-- Whether all code points from `first` to `last` are characters. -/
def isCharSpan (first last : Nat) : Bool :=
  last < 0xD800 || (0xDFFF < first && last < 0x110000)

theorem isValidChar_of_isCharSpan {first last n : Nat} (h : isCharSpan first last = true)
    (hfirst : first ≤ n) (hlast : n ≤ last) : n.isValidChar := by
  simp only [isCharSpan, Bool.or_eq_true, Bool.and_eq_true, decide_eq_true_eq] at h
  simp only [Nat.isValidChar]
  omega

theorem toNat_ofNat_image {r : CaseRun}
    (hspan : isCharSpan r.target (r.target + (r.last - r.first)) = true) {n : Nat}
    (h : r.contains n = true) : (Char.ofNat (r.image n)).toNat = r.image n := by
  obtain ⟨hlow, hhigh⟩ := image_bounds h
  exact toNat_ofNat (isValidChar_of_isCharSpan hspan hlow hhigh)

/-! ### Small letters -/

set_option maxRecDepth 4000 in
/-- The images in the table of runs are characters and start at `a`. -/
theorem lowerRuns_spec : ∀ r ∈ lowerRuns,
    0x61 ≤ r.target ∧ isCharSpan r.target (r.target + (r.last - r.first)) = true := by
  decide

/-- The images in the table of expansions are characters and start at `a`. -/
theorem lowerExpansions_spec : ∀ e ∈ lowerExpansions, e.2 ≠ [] ∧
    ∀ n ∈ e.2, 0x61 ≤ n ∧ isCharSpan n n = true := by
  decide

/-- Each ASCII capital is mapped. -/
theorem mapped?_lowerRuns_of_capital {n : Nat} (h : 0x41 ≤ n ∧ n ≤ 0x5A) :
    mapped? lowerRuns n ≠ none := by
  have hall : ∀ k ∈ List.range' 0x41 26, mapped? lowerRuns k ≠ none := by decide
  exact hall n (by simp only [List.mem_range'_1]; omega)

/-- A small form is the character itself, and no ASCII capital, or comes from `a` on. -/
theorem eq_or_le_of_mem_toSmall {c d : Char} (h : d ∈ toSmall c) :
    (d = c ∧ ¬ (0x41 ≤ c.toNat ∧ c.toNat ≤ 0x5A)) ∨ 0x61 ≤ d.toNat := by
  unfold toSmall at h
  rcases mapCase_cases lowerExpansions lowerRuns c with
    ⟨codes, hcodes, hsmall⟩ | ⟨r, hr, hcontains, hsmall⟩ | ⟨hnone, hsmall⟩ <;> rw [hsmall] at h
  · obtain ⟨n, hn, rfl⟩ := List.mem_map.mp h
    obtain ⟨hle, hspan⟩ := (lowerExpansions_spec _ hcodes).2 n hn
    right
    rwa [toNat_ofNat (isValidChar_of_isCharSpan hspan (Nat.le_refl n) (Nat.le_refl n))]
  · obtain rfl := List.mem_singleton.mp h
    obtain ⟨hle, hspan⟩ := lowerRuns_spec r hr
    right
    rw [toNat_ofNat_image hspan hcontains]
    exact Nat.le_trans hle (image_bounds hcontains).1
  · -- What no table maps is no ASCII capital.
    exact Or.inl ⟨List.mem_singleton.mp h, fun hcap => mapped?_lowerRuns_of_capital hcap hnone⟩

theorem toSmall_ne_nil (c : Char) : toSmall c ≠ [] := by
  unfold toSmall
  rcases mapCase_cases lowerExpansions lowerRuns c with
    ⟨codes, hcodes, hsmall⟩ | ⟨r, -, -, hsmall⟩ | ⟨-, hsmall⟩ <;> rw [hsmall]
  · have hne : codes ≠ [] := (lowerExpansions_spec _ hcodes).1
    simpa using hne
  · exact List.cons_ne_nil _ _
  · exact List.cons_ne_nil _ _

/-! ### Texts in small letters -/

theorem eq_or_le_of_mem_lowercaseFrom {d : Char} {cs : List Char} : ∀ {before : List Char},
    d ∈ lowercaseFrom before cs →
      (d ∈ cs ∧ ¬ (0x41 ≤ d.toNat ∧ d.toNat ≤ 0x5A)) ∨ 0x61 ≤ d.toNat := by
  induction cs with
  | nil => intro before h; simp [lowercaseFrom] at h
  | cons c cs ih =>
    intro before h
    rw [lowercaseFrom, List.mem_append] at h
    rcases h with h | h
    · split at h
      · -- A capital sigma gives one of two small letters, by where it stands.
        right
        rw [List.mem_singleton] at h
        rw [h]
        split <;> decide
      · rcases eq_or_le_of_mem_toSmall h with ⟨rfl, hcap⟩ | hle
        · exact Or.inl ⟨List.mem_cons_self, hcap⟩
        · exact Or.inr hle
    · rcases ih h with ⟨hmem, hcap⟩ | hle
      · exact Or.inl ⟨List.mem_cons_of_mem _ hmem, hcap⟩
      · exact Or.inr hle

/-- A character of a text in small letters was there before, and is no ASCII capital, or comes
from `a` on. -/
theorem eq_or_le_of_mem_lowercase {d : Char} {s : String} (h : d ∈ (lowercase s).toList) :
    (d ∈ s.toList ∧ ¬ (0x41 ≤ d.toNat ∧ d.toNat ≤ 0x5A)) ∨ 0x61 ≤ d.toNat := by
  rw [lowercase, String.toList_ofList] at h
  exact eq_or_le_of_mem_lowercaseFrom h

theorem length_le_length_lowercaseFrom (cs : List Char) :
    ∀ before, cs.length ≤ (lowercaseFrom before cs).length := by
  induction cs with
  | nil => intro before; exact Nat.zero_le _
  | cons c cs ih =>
    intro before
    have hrest := ih (c :: before)
    have hsmall := List.length_pos_iff.mpr (toSmall_ne_nil c)
    rw [lowercaseFrom, List.length_append, List.length_cons]
    split
    · rw [List.length_singleton]
      omega
    · omega

/-- Small letters are no fewer than the characters they come from. -/
theorem length_le_length_lowercase (s : String) : s.length ≤ (lowercase s).length := by
  rw [lowercase, String.length_ofList, ← String.length_toList]
  exact length_le_length_lowercaseFrom s.toList []

end GoEnum.Text

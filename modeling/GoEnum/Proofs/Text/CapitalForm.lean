/-
  What capital forms look like.

  A character is its own capital form, or its capital form is another text. That text
  starts with a capital letter, as one expects, but for a few characters
  (`isOddlyCapitalized`): the letter `ŉ`, whose capital form starts with an
  apostrophe, and small Roman numerals and circled small letters, whose capitals are
  no letters. So whether the first letter of a text is a capital one after it was
  capitalised can be told from what it was before (`isCapital_head_toCapital_iff`).
  In any case the first character of a capital form is its own capital form, so a text
  that was capitalised stays as it is (`capitalize_capitalize`).
-/
import GoEnum.Proofs.Text.Ascii
import GoEnum.Proofs.Text.Category
import GoEnum.Proofs.Text.LetterCase
import Mathlib.Data.List.Chain

namespace GoEnum.Text

/-! ### Runs of images and runs of capital letters -/

/-- Whether all images of a run are in a run of capital letters. -/
def CaseRun.mapsInto (r : CaseRun) (q : SteppedRange) : Bool :=
  Nat.ble q.first r.target && Nat.ble (r.target + (r.last - r.first)) q.last &&
    Nat.beq ((r.target - q.first) % q.step) 0 &&
    (Nat.beq r.first r.last || Nat.beq (r.step % q.step) 0)

theorem contains_image {r : CaseRun} {q : SteppedRange} (h : r.mapsInto q = true) {n : Nat}
    (hn : r.contains n = true) : q.contains (r.image n) = true := by
  simp only [CaseRun.mapsInto, Bool.and_eq_true, Bool.or_eq_true, Nat.ble_eq, Nat.beq_eq] at h
  simp only [CaseRun.contains, Bool.and_eq_true, decide_eq_true_eq, beq_iff_eq] at hn
  obtain ⟨⟨⟨hlow, hhigh⟩, htarget⟩, hstep⟩ := h
  obtain ⟨⟨hfirst, hlast⟩, hdistance⟩ := hn
  -- From the start of `q`, the image is as far as the target and the place of `n` in its run
  -- together, and both are multiples of the step.
  have himage : r.image n - q.first = (r.target - q.first) + (n - r.first) := by
    unfold CaseRun.image
    omega
  have hdvd : q.step ∣ n - r.first := by
    rcases hstep with hsingle | hstep
    · -- The run has one code point, so `n` is at no distance from its start.
      have hzero : n - r.first = 0 := by omega
      rw [hzero]
      exact Nat.dvd_zero _
    · exact Nat.dvd_trans (Nat.dvd_of_mod_eq_zero hstep) (Nat.dvd_of_mod_eq_zero hdistance)
  have hmod : (r.image n - q.first) % q.step = 0 := by
    rw [himage]
    exact Nat.mod_eq_zero_of_dvd (Nat.dvd_add (Nat.dvd_of_mod_eq_zero htarget) hdvd)
  simp only [SteppedRange.contains, Bool.and_eq_true, decide_eq_true_eq, beq_iff_eq]
  refine ⟨⟨?_, ?_⟩, hmod⟩
  · exact hlow.trans (Nat.le_add_right _ _)
  · unfold CaseRun.image
    omega

/-- Whether no run of capital letters meets the code points from `first` to `last`. -/
def hasNoCapital (first last : Nat) : Bool :=
  capitalRanges.all fun q => Nat.blt last q.first || Nat.blt q.last first

theorem isCapital_of_hasNoCapital {first last : Nat} (h : hasNoCapital first last = true) {c : Char}
    (hfirst : first ≤ c.toNat) (hlast : c.toNat ≤ last) : isCapital c = false := by
  simp only [hasNoCapital, List.all_eq_true, Bool.or_eq_true, Nat.blt_eq] at h
  rw [Bool.eq_false_iff, isCapital]
  intro hcapital
  obtain ⟨q, hq, hcontains⟩ := List.any_eq_true.mp hcapital
  simp only [SteppedRange.contains, Bool.and_eq_true, decide_eq_true_eq] at hcontains
  rcases h q hq with hbelow | habove
  · omega
  · omega

/-! ### The odd ones -/

/-- The runs of code points that are not their own capital form and whose capital form starts with
no capital letter. -/
def oddRanges : List CodeRange := [⟨0x0149, 0x0149⟩, ⟨0x2170, 0x217F⟩, ⟨0x24D0, 0x24E9⟩]

/-- Whether a character has another capital form that starts with no capital letter. -/
def isOddlyCapitalized (c : Char) : Bool :=
  inRanges oddRanges c

set_option maxRecDepth 8000 in
theorem isCapital_of_isOddlyCapitalized {c : Char} (h : isOddlyCapitalized c = true) :
    isCapital c = false := by
  have hnone : ∀ r ∈ oddRanges, hasNoCapital r.first r.last = true := by decide
  obtain ⟨r, hr, hfirst, hlast⟩ := (inRanges_iff oddRanges c).mp h
  exact isCapital_of_hasNoCapital (hnone r hr) hfirst hlast

/-- The run of capital letters that can hold all images of a run: the first that does not end before
they do. -/
def capitalRun? (r : CaseRun) : Option SteppedRange :=
  capitalRanges.find? fun q => Nat.ble (r.target + (r.last - r.first)) q.last

set_option maxRecDepth 8000 in
/-- No image is an ASCII small letter. A run whose images are capital letters holds none of the odd
ones; the images of the other runs are no capital letters, and these runs hold odd ones only. -/
theorem upperRuns_spec : ∀ r ∈ upperRuns,
    r.target ≠ r.first ∧ isCharSpan r.target (r.target + (r.last - r.first)) = true ∧
    (r.target + (r.last - r.first) < 0x61 ∨ 0x7A < r.target) ∧
    (((∃ q ∈ capitalRun? r, r.mapsInto q = true) ∧
        ∀ q ∈ oddRanges, r.last < q.first ∨ q.last < r.first) ∨
      (hasNoCapital r.target (r.target + (r.last - r.first)) = true ∧
        ∃ q ∈ oddRanges, q.first ≤ r.first ∧ r.last ≤ q.last)) := by
  decide

set_option maxRecDepth 8000 in
/-- The capital form of each exception is spelt with two or more characters, and starts with a
capital letter unless the character is an odd one, but never with an ASCII small letter. -/
theorem upperExpansions_spec : ∀ e ∈ upperExpansions, 2 ≤ e.2.length ∧
    ∀ n ∈ e.2.head?, isCapital (Char.ofNat n) = !isOddlyCapitalized (Char.ofNat e.1) ∧
      (Char.ofNat n).isLower = false := by
  decide

/-! ### Capital forms -/

theorem isCapital_image {r : CaseRun} (hr : r ∈ upperRuns) {c : Char}
    (hc : r.contains c.toNat = true) :
    isCapital (Char.ofNat (r.image c.toNat)) = !isOddlyCapitalized c := by
  obtain ⟨-, hspan, -, hcases⟩ := upperRuns_spec r hr
  have hcode := toNat_ofNat_image hspan hc
  obtain ⟨hlow, hhigh⟩ := image_bounds hc
  have hrange := hc
  simp only [CaseRun.contains, Bool.and_eq_true, decide_eq_true_eq] at hrange
  obtain ⟨⟨hfirst, hlast⟩, -⟩ := hrange
  rcases hcases with ⟨hcapital, hapart⟩ | ⟨hnone, q, hq, hqfirst, hqlast⟩
  · -- The images are capital letters, and no odd character is in the run.
    have hodd : isOddlyCapitalized c = false := by
      rw [Bool.eq_false_iff]
      intro hodd
      obtain ⟨q, hq, hqfirst, hqlast⟩ := (inRanges_iff oddRanges c).mp hodd
      have hmeet := hapart q hq
      omega
    obtain ⟨q, hq, hmaps⟩ := hcapital
    rw [hodd, isCapital, hcode]
    exact List.any_eq_true.mpr ⟨q, List.mem_of_find?_eq_some hq, contains_image hmaps hc⟩
  · -- The images are no capital letters, and the run holds odd characters only.
    have hodd : isOddlyCapitalized c = true :=
      (inRanges_iff oddRanges c).mpr ⟨q, hq, by omega, by omega⟩
    rw [hodd]
    exact isCapital_of_hasNoCapital hnone (by rw [hcode]; exact hlow) (by rw [hcode]; exact hhigh)

theorem ofNat_image_ne {r : CaseRun} (hr : r ∈ upperRuns) {c : Char}
    (hc : r.contains c.toNat = true) : Char.ofNat (r.image c.toNat) ≠ c := by
  obtain ⟨hne, hspan, -⟩ := upperRuns_spec r hr
  intro heq
  have hcode := toNat_ofNat_image hspan hc
  simp only [CaseRun.contains, Bool.and_eq_true, decide_eq_true_eq] at hc
  rw [heq] at hcode
  unfold CaseRun.image at hcode
  omega

/-- A character is its own capital form, or its capital form is another text, which starts with a
capital letter unless the character is an odd one. -/
theorem toCapital_cases (c : Char) : toCapital c = [c] ∨
    (toCapital c ≠ [c] ∧
      ∃ d ∈ (toCapital c).head?, isCapital d = !isOddlyCapitalized c) := by
  unfold toCapital
  rcases mapCase_cases upperExpansions upperRuns c with
    ⟨codes, hcodes, hform⟩ | ⟨r, hr, hcontains, hform⟩ | ⟨-, hform⟩ <;> rw [hform]
  · -- The form has two characters at least, so it is not the character itself.
    obtain ⟨hlength, hhead⟩ := upperExpansions_spec _ hcodes
    dsimp only at hlength hhead
    right
    constructor
    · intro hself
      have hone := congrArg List.length hself
      rw [List.length_map, List.length_singleton] at hone
      omega
    · obtain ⟨n, rest, rfl⟩ :=
        List.exists_cons_of_length_pos (Nat.lt_of_lt_of_le Nat.two_pos hlength)
      refine ⟨Char.ofNat n, rfl, ?_⟩
      rw [(hhead n rfl).1, Char.ofNat_toNat]
  · right
    refine ⟨?_, _, rfl, isCapital_image hr hcontains⟩
    intro hself
    exact ofNat_image_ne hr hcontains (List.cons.inj hself).1
  · exact Or.inl rfl

/-- The capital form of a character starts with a capital letter just if the character is a capital
letter itself or has another capital form, and an ordinary one. -/
theorem isCapital_head_toCapital_iff (c : Char) :
    (toCapital c).head?.any isCapital = true ↔
      isCapital c = true ∨ (toCapital c ≠ [c] ∧ isOddlyCapitalized c = false) := by
  rcases toCapital_cases c with hself | ⟨hother, d, hd, hcapital⟩
  · simp [hself]
  · rw [Option.mem_def] at hd
    cases hodd : isOddlyCapitalized c with
    | false => simp [hd, hother, hcapital, hodd]
    | true => simp [hd, hcapital, hodd, isCapital_of_isOddlyCapitalized hodd]

/-! ### ASCII small letters -/

/-- Each ASCII small letter is mapped. -/
theorem mapped?_upperRuns_of_small {n : Nat} (h : 0x61 ≤ n ∧ n ≤ 0x7A) :
    mapped? upperRuns n ≠ none := by
  have hall : ∀ k ∈ List.range' 0x61 26, mapped? upperRuns k ≠ none := by decide
  exact hall n (by simp only [List.mem_range'_1]; omega)

/-- No capital form starts with an ASCII small letter. -/
theorem isLower_of_mem_head?_toCapital {c d : Char} (h : d ∈ (toCapital c).head?) :
    d.isLower = false := by
  unfold toCapital at h
  rcases mapCase_cases upperExpansions upperRuns c with
    ⟨codes, hcodes, hform⟩ | ⟨r, hr, hcontains, hform⟩ | ⟨hnone, hform⟩ <;> rw [hform] at h
  · rw [List.head?_map] at h
    obtain ⟨n, hn, rfl⟩ := Option.map_eq_some_iff.mp h
    exact ((upperExpansions_spec _ hcodes).2 n hn).2
  · obtain rfl : Char.ofNat (r.image c.toNat) = d := Option.some.inj h
    obtain ⟨-, hspan, havoid, -⟩ := upperRuns_spec r hr
    obtain ⟨hlow, hhigh⟩ := image_bounds hcontains
    rw [Bool.eq_false_iff, ne_eq, isLower_iff, toNat_ofNat_image hspan hcontains]
    omega
  · -- What no table maps is no ASCII small letter.
    obtain rfl : c = d := Option.some.inj h
    rw [Bool.eq_false_iff, ne_eq, isLower_iff]
    exact fun hsmall => mapped?_upperRuns_of_small hsmall hnone

/-! ### Capital forms of capital forms -/

/-- Whether the run `q` maps no image of the run `r`: the two are apart, or the images are every
other code point and `q` maps the ones between. -/
def CaseRun.mapsNoImage (q r : CaseRun) : Bool :=
  Nat.blt (r.target + (r.last - r.first)) q.first || Nat.blt q.last r.target ||
    ((Nat.beq r.first r.last || Nat.beq (r.step % 2) 0) && Nat.beq (q.step % 2) 0 &&
      Nat.beq ((r.target + q.first) % 2) 1)

theorem not_contains_image {q r : CaseRun} (h : q.mapsNoImage r = true) {n : Nat}
    (hn : r.contains n = true) : q.contains (r.image n) = false := by
  rw [Bool.eq_false_iff]
  intro hq
  obtain ⟨hlow, hhigh⟩ := image_bounds hn
  simp only [CaseRun.mapsNoImage, Bool.and_eq_true, Bool.or_eq_true, Nat.blt_eq, Nat.beq_eq] at h
  simp only [CaseRun.contains, Bool.and_eq_true, decide_eq_true_eq, beq_iff_eq] at hn hq
  obtain ⟨⟨hfirst, hlast⟩, hdistance⟩ := hn
  obtain ⟨⟨hqfirst, hqlast⟩, hqdistance⟩ := hq
  rcases h with (hbelow | habove) | ⟨⟨hstep, hqstep⟩, hparity⟩
  · omega
  · omega
  · -- The image lies an even number of places after the target, and what `q` maps lies so after the
    -- start of `q`; but target and start have not the same parity.
    have hdvd : 2 ∣ n - r.first := by
      rcases hstep with hsingle | hstep
      · have hzero : n - r.first = 0 := by omega
        rw [hzero]
        exact Nat.dvd_zero _
      · exact Nat.dvd_trans (Nat.dvd_of_mod_eq_zero hstep) (Nat.dvd_of_mod_eq_zero hdistance)
    have hqdvd : 2 ∣ r.image n - q.first :=
      Nat.dvd_trans (Nat.dvd_of_mod_eq_zero hqstep) (Nat.dvd_of_mod_eq_zero hqdistance)
    unfold CaseRun.image at hqdvd hqfirst
    omega

/-- The runs of a table in ascending order that meet the code points from `first` to `last`. -/
def runsMeeting (first last : Nat) (runs : List CaseRun) : List CaseRun :=
  (runs.dropWhile fun q => Nat.blt q.last first).takeWhile fun q => Nat.ble q.first last

theorem mem_takeWhile_of_ordered {runs : List CaseRun}
    (h : runs.Pairwise fun q k => q.first ≤ k.first) {q : CaseRun} (hq : q ∈ runs) {last : Nat}
    (hlast : q.first ≤ last) : q ∈ runs.takeWhile fun k => Nat.ble k.first last := by
  induction runs with
  | nil => exact absurd hq List.not_mem_nil
  | cons k runs ih =>
    obtain ⟨hk, hruns⟩ := List.pairwise_cons.mp h
    have hkeep : Nat.ble k.first last = true := by
      rw [Nat.ble_eq]
      rcases List.mem_cons.mp hq with rfl | hq
      · exact hlast
      · exact (hk q hq).trans hlast
    rw [List.takeWhile_cons, if_pos hkeep]
    rcases List.mem_cons.mp hq with rfl | hq
    · exact List.mem_cons_self
    · exact List.mem_cons_of_mem k (ih hruns hq)

theorem mem_runsMeeting {runs : List CaseRun} (h : runs.Pairwise fun q k => q.first ≤ k.first)
    {q : CaseRun} (hq : q ∈ runs) {first last : Nat} (hfirst : first ≤ q.last)
    (hlast : q.first ≤ last) : q ∈ runsMeeting first last runs := by
  have hrest : q ∈ runs.dropWhile fun k => Nat.blt k.last first := by
    refine (or_mem_dropWhile (fun k => Nat.blt k.last first) hq).resolve_left ?_
    rw [Nat.blt_eq]
    omega
  exact mem_takeWhile_of_ordered (h.sublist (List.dropWhile_sublist _)) hrest hlast

set_option maxRecDepth 4000 in
theorem upperRuns_ordered : upperRuns.Pairwise fun q k => q.first ≤ k.first := by
  have hchain : upperRuns.IsChain fun q k => q.first ≤ k.first := by decide
  have htrans : Trans (fun q k : CaseRun => q.first ≤ k.first)
      (fun q k : CaseRun => q.first ≤ k.first) (fun q k : CaseRun => q.first ≤ k.first) :=
    ⟨Nat.le_trans⟩
  exact hchain.pairwise

/-- Only runs that come near a code point have to be looked at to see that it is not mapped. -/
theorem mapped?_upperRuns_eq_none {first last n : Nat} (hfirst : first ≤ n) (hlast : n ≤ last)
    (h : ∀ q ∈ runsMeeting first last upperRuns, q.contains n = false) :
    mapped? upperRuns n = none := by
  rw [mapped?, Option.map_eq_none_iff, List.find?_eq_none]
  intro q hq hmapped
  have hrange := hmapped
  simp only [CaseRun.contains, Bool.and_eq_true, decide_eq_true_eq] at hrange
  have hmeets := mem_runsMeeting upperRuns_ordered hq (hfirst.trans hrange.1.2)
    (hrange.1.1.trans hlast)
  exact Bool.noConfusion ((h q hmeets).symm.trans hmapped)

/-- Runs of code points that hold all exceptions and no images of runs. -/
def exceptionRanges : List CodeRange := [
  ⟨0x00DF, 0x00DF⟩, ⟨0x0149, 0x0149⟩, ⟨0x01F0, 0x01F0⟩, ⟨0x0390, 0x0390⟩, ⟨0x03B0, 0x03B0⟩,
  ⟨0x0587, 0x0587⟩, ⟨0x1E96, 0x1E9A⟩, ⟨0x1F50, 0x1F56⟩, ⟨0x1F80, 0x1FB7⟩, ⟨0x1FBC, 0x1FC7⟩,
  ⟨0x1FCC, 0x1FD7⟩, ⟨0x1FE2, 0x1FE7⟩, ⟨0x1FF2, 0x1FF7⟩, ⟨0x1FFC, 0x1FFC⟩, ⟨0xFB00, 0xFB17⟩]

set_option maxRecDepth 4000 in
theorem upperExpansions_covered :
    isCovered (upperExpansions.map fun e => ⟨e.1, e.1⟩) exceptionRanges = true := by
  decide

set_option maxRecDepth 8000 in
/-- No image of a run is mapped again by a run or lies among the exceptions. An exception is spelt
with three characters at most, and the first one is not mapped again. -/
theorem upperTables_closed :
    (∀ r ∈ upperRuns,
      (∀ q ∈ runsMeeting r.target (r.target + (r.last - r.first)) upperRuns,
        q.mapsNoImage r = true) ∧
      ∀ q ∈ exceptionRanges, r.target + (r.last - r.first) < q.first ∨ q.last < r.target) ∧
    ∀ e ∈ upperExpansions, e.2.length ≤ 3 ∧ ∀ n ∈ e.2.head?,
      isCharSpan n n = true ∧ upperExpansions.lookup n = none ∧
        ∀ q ∈ runsMeeting n n upperRuns, q.contains n = false := by
  -- As a Boolean, what is asked of the runs is computed much faster.
  have hall : (upperRuns.all fun r =>
      (runsMeeting r.target (r.target + (r.last - r.first)) upperRuns).all (·.mapsNoImage r) &&
        exceptionRanges.all fun q =>
          Nat.blt (r.target + (r.last - r.first)) q.first || Nat.blt q.last r.target) = true ∧
      ∀ e ∈ upperExpansions, e.2.length ≤ 3 ∧ ∀ n ∈ e.2.head?,
        isCharSpan n n = true ∧ upperExpansions.lookup n = none ∧
          ∀ q ∈ runsMeeting n n upperRuns, q.contains n = false := by
    decide
  refine ⟨?_, hall.2⟩
  simpa only [List.all_eq_true, Bool.and_eq_true, Bool.or_eq_true, Nat.blt_eq] using hall.1

theorem toCapital_eq_self {c : Char} (hexpansion : upperExpansions.lookup c.toNat = none)
    (hrun : mapped? upperRuns c.toNat = none) : toCapital c = [c] := by
  rw [toCapital, mapCase, hexpansion, hrun, Option.getD_none, Char.ofNat_toNat]

theorem toCapital_image {r : CaseRun} (hr : r ∈ upperRuns) {n : Nat} (hn : r.contains n = true) :
    toCapital (Char.ofNat (r.image n)) = [Char.ofNat (r.image n)] := by
  obtain ⟨-, hspan, -⟩ := upperRuns_spec r hr
  obtain ⟨hruns, hexceptions⟩ := upperTables_closed.1 r hr
  obtain ⟨hlow, hhigh⟩ := image_bounds hn
  apply toCapital_eq_self <;> rw [toNat_ofNat_image hspan hn]
  · rw [List.lookup_eq_none_iff]
    intro e he
    obtain ⟨q, hq, (hfirst : q.first ≤ e.1), (hlast : e.1 ≤ q.last)⟩ :=
      exists_of_isCovered upperExpansions_covered _ (List.mem_map_of_mem he)
    have hne : r.image n ≠ e.1 := by
      have hapart := hexceptions q hq
      omega
    simpa using hne
  · exact mapped?_upperRuns_eq_none hlow hhigh fun q hq => not_contains_image (hruns q hq) hn

/-- A capital form has one to three characters, and its first one is its own capital form. -/
theorem toCapital_spec (c : Char) : 1 ≤ (toCapital c).length ∧ (toCapital c).length ≤ 3 ∧
    ∀ d ∈ (toCapital c).head?, toCapital d = [d] := by
  have hform : toCapital c = mapCase upperExpansions upperRuns c := rfl
  rcases mapCase_cases upperExpansions upperRuns c with
    ⟨codes, hcodes, hself⟩ | ⟨r, hr, hcontains, hself⟩ | ⟨hnone, hself⟩ <;> rw [hform, hself]
  · obtain ⟨hleast, -⟩ := upperExpansions_spec _ hcodes
    obtain ⟨hmost, hhead⟩ := upperTables_closed.2 _ hcodes
    rw [List.length_map]
    refine ⟨Nat.le_of_succ_le hleast, hmost, ?_⟩
    intro d hd
    rw [List.head?_map] at hd
    obtain ⟨n, hn, rfl⟩ := Option.map_eq_some_iff.mp hd
    obtain ⟨hspan, hexpansion, hrun⟩ := hhead n hn
    have hcode : (Char.ofNat n).toNat = n :=
      toNat_ofNat (isValidChar_of_isCharSpan hspan (Nat.le_refl n) (Nat.le_refl n))
    have hnone := mapped?_upperRuns_eq_none (Nat.le_refl n) (Nat.le_refl n) hrun
    exact toCapital_eq_self (hcode.symm ▸ hexpansion) (hcode.symm ▸ hnone)
  · refine ⟨Nat.le_refl 1, Nat.le_of_ble_eq_true rfl, ?_⟩
    intro d hd
    obtain rfl : Char.ofNat (r.image c.toNat) = d := Option.some.inj hd
    exact toCapital_image hr hcontains
  · refine ⟨Nat.le_refl 1, Nat.le_of_ble_eq_true rfl, ?_⟩
    intro d hd
    obtain rfl : c = d := Option.some.inj hd
    rw [hform, hself]

/-- To capitalise a second time changes nothing, though the first character may then be another one
than the first time. -/
theorem capitalizeFirst_capitalizeFirst (cs : List Char) :
    capitalizeFirst (capitalizeFirst cs) = capitalizeFirst cs := by
  cases cs with
  | nil => rfl
  | cons c cs =>
    obtain ⟨hpos, -, hfixed⟩ := toCapital_spec c
    obtain ⟨d, ds, hform⟩ := List.exists_cons_of_length_pos hpos
    rw [hform] at hfixed
    rw [capitalizeFirst, hform, List.cons_append, capitalizeFirst, hfixed d rfl]
    rfl

theorem capitalize_ofList_cons (c : Char) (cs : List Char) :
    capitalize (String.ofList (c :: cs)) = String.ofList (toCapital c ++ cs) := by
  rw [capitalize, String.toList_ofList, capitalizeFirst]

theorem capitalize_capitalize (s : String) : capitalize (capitalize s) = capitalize s := by
  rw [capitalize, capitalize, String.toList_ofList, capitalizeFirst_capitalizeFirst]

end GoEnum.Text

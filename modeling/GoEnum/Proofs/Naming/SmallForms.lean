/-
  The names that are derived by small letters.

  The package, the receiver of the methods and the table of names come from the small
  form of the name, or of its first letter. The check looks at the name as it is
  given, so their being identifiers hangs on one letter: the capital `İ`, whose small
  form is no identifier (`isIdentifier_smallForms_iff`). The receiver falls back on
  another letter where it would hide the type (`receiver_ne`).
-/
import GoEnum.Proofs.Lexeme.SmallLetters
import GoEnum.Proofs.Naming.Check

namespace GoEnum.Naming

open Text Lexeme

/-! ### The receiver -/

/-- The receiver is the small form of the first letter, if that is an ASCII letter and not the name
itself, or else what there is to fall back on. -/
theorem receiver_cases (name : String) :
    (receiver name = lowercase (firstChar name) ∧ receiver name ≠ name ∧
      ∃ c ∈ (receiver name).toList.head?, c.isAlpha = true) ∨
    receiver name = receiver.fallback name := by
  unfold receiver
  dsimp only
  split
  · rename_i c cs hletter
    split
    · rename_i hown
      obtain ⟨halpha, hne⟩ : c.isAlpha = true ∧ lowercase (firstChar name) ≠ name := by
        simpa using hown
      exact Or.inl ⟨rfl, hne, c, by simp [hletter], halpha⟩
    · exact Or.inr rfl
  · exact Or.inr rfl

theorem fallback_ne (name : String) : receiver.fallback name ≠ name := by
  unfold receiver.fallback
  split
  · rename_i h
    rw [h]
    decide
  · rename_i h
    exact Ne.symm h

/-- The receiver does not hide the type. -/
theorem receiver_ne (name : String) : receiver name ≠ name := by
  rcases receiver_cases name with ⟨-, hne, -⟩ | hfallback
  · exact hne
  · rw [hfallback]
    exact fallback_ne name

theorem isIdentifier_fallback (name : String) : isIdentifier (receiver.fallback name) = true := by
  unfold receiver.fallback
  split <;> decide

/-- The first letter in small form is an identifier, if it is an ASCII letter and does not come from
the dotted capital. -/
theorem isIdentifier_lowercase_firstChar {name : String} (h : isIdentifier name = true)
    (hdotted : name.toList.head? ≠ some 'İ') {c : Char}
    (hc : c ∈ (lowercase (firstChar name)).toList.head?) (halpha : c.isAlpha = true) :
    isIdentifier (lowercase (firstChar name)) = true := by
  cases hcs : name.toList with
  | nil => exact absurd hcs (toList_ne_nil_of_isIdentifier h)
  | cons d ds =>
    have hd : 'İ' ∉ (firstChar name).toList := by
      rw [firstChar, hcs, String.toList_ofList, List.take_succ_cons, List.take_zero,
        List.mem_singleton]
      rintro rfl
      exact hdotted (by rw [hcs]; rfl)
    have hsmall : isIdentifier (firstChar name) = true := by
      simp only [isIdentifier, hcs, isIdentifierChars, Bool.and_eq_true] at h
      -- The blank identifier is its own small form, and no letter.
      have hblank : d ≠ '_' := by
        rintro rfl
        have hself : lowercase (firstChar name) = "_" := by
          rw [firstChar, hcs, List.take_succ_cons, List.take_zero]
          decide
        rw [hself] at hc
        obtain rfl : '_' = c := by simpa using hc
        exact absurd halpha (by decide)
      rw [isIdentifier, firstChar, hcs, String.toList_ofList]
      simpa [isIdentifierChars, hblank] using h.1.1
    exact (isIdentifier_lowercase_iff hsmall).mpr hd

/-- A name that starts with the dotted capital has an `i` and a dot for its receiver. -/
theorem receiver_of_dotted {name : String} (h : name.toList.head? = some 'İ') :
    receiver name = "i\u0307" := by
  obtain ⟨cs, hcs⟩ := List.head?_eq_some_iff.mp h
  have hletter : lowercase (firstChar name) = "i\u0307" := by
    rw [firstChar, hcs, List.take_succ_cons, List.take_zero]
    decide
  have hne : "i\u0307" ≠ name := by
    rintro rfl
    exact absurd h (by decide)
  unfold receiver
  simp [hletter, hne]

theorem isIdentifier_receiver_iff {name : String} (h : isIdentifier name = true) :
    isIdentifier (receiver name) = true ↔ name.toList.head? ≠ some 'İ' := by
  constructor
  · intro hreceiver hdotted
    rw [receiver_of_dotted hdotted] at hreceiver
    exact not_mem_of_isIdentifier hreceiver isWordChar_combiningDot (by decide)
  · intro hdotted
    rcases receiver_cases name with ⟨hletter, -, c, hc, halpha⟩ | hfallback
    · rw [hletter] at hc ⊢
      exact isIdentifier_lowercase_firstChar h hdotted hc halpha
    · rw [hfallback]
      exact isIdentifier_fallback name

/-! ### The package and the table of names -/

theorem isIdentifier_packageName_iff {name : String} (h : isIdentifier name = true) :
    isIdentifier (packageName name) = true ↔ 'İ' ∉ name.toList :=
  isIdentifier_lowercase_iff h

theorem isIdentifier_namesTable_iff {name : String} (h : isIdentifier name = true) :
    isIdentifier (namesTable name) = true ↔ 'İ' ∉ name.toList := by
  constructor
  · intro htable hmem
    refine not_isIdentifier_of_dotted hmem (fun c hc => ?_) htable
    rw [namesTable, packageName, String.toList_append]
    exact List.mem_append_left _ hc
  · intro hnone
    exact isIdentifier_append ((isIdentifier_packageName_iff h).mpr hnone)
      (by simp [isWordChar_ascii])

/-! ### What the check lets through -/

/-- For a name that the check accepts, the package and the table of names are identifiers just if no
dotted capital occurs in the name, and the receiver is one just if the name does not start with
it. -/
theorem isIdentifier_smallForms_iff {name : String} {kind : Kind} {values : List String}
    (h : check name kind values = .ok ()) :
    (isIdentifier (packageName name) = true ↔ 'İ' ∉ name.toList) ∧
    (isIdentifier (receiver name) = true ↔ name.toList.head? ≠ some 'İ') ∧
    (isIdentifier (namesTable name) = true ↔ 'İ' ∉ name.toList) := by
  have hname := (check_eq_ok_iff.mp h).isIdentifier_name
  exact ⟨isIdentifier_packageName_iff hname, isIdentifier_receiver_iff hname,
    isIdentifier_namesTable_iff hname⟩

/-- Letters with small forms in two alphabets, a final sigma and a capital Roman numeral. -/
theorem isIdentifier_smallForms_odos :
    check "KΟΔΟΣ_Ⅳ" (.int none) ["ſmall"] = .ok () ∧
    isIdentifier (packageName "KΟΔΟΣ_Ⅳ") = true ∧ isIdentifier (receiver "KΟΔΟΣ_Ⅳ") = true ∧
    isIdentifier (namesTable "KΟΔΟΣ_Ⅳ") = true := by
  have hcheck : check "KΟΔΟΣ_Ⅳ" (.int none) ["ſmall"] = .ok () := by decide +kernel
  obtain ⟨hpackage, hreceiver, htable⟩ := isIdentifier_smallForms_iff hcheck
  exact ⟨hcheck, hpackage.mpr (by decide), hreceiver.mpr (by decide), htable.mpr (by decide)⟩

/-- The check accepts a name none of whose small forms is an identifier. -/
theorem not_isIdentifier_smallForms_dotted :
    check "İx" .string ["A"] = .ok () ∧ isIdentifier (packageName "İx") = false ∧
    isIdentifier (receiver "İx") = false ∧ isIdentifier (namesTable "İx") = false := by
  decide +kernel

end GoEnum.Naming

/-
  Which constants other packages can use.

  A name is exported if its first letter is a capital one. A constant has the capital
  form of its value's first letter, so it is exported if that letter is a capital one
  or has an ordinary capital form. The check does not ask for it: it accepts values
  that start with `_`, with a letter of a script without capitals, or with one of the
  few letters that are oddly capitalized (`isExported_constant_iff`).
-/
import GoEnum.Proofs.Naming.Check
import GoEnum.Proofs.Text.CapitalForm

namespace GoEnum.Naming

open Text Lexeme

/-- Whether other packages can refer to a name: it starts with a capital letter. -/
def isExported (name : String) : Bool :=
  name.toList.head?.any isCapital

/-- The constant starts as the capital form of the value's first letter does. -/
theorem head?_constant {value : String} {c : Char} (h : value.toList.head? = some c) :
    (constant value).toList.head? = (toCapital c).head? := by
  obtain ⟨cs, hcs⟩ := List.head?_eq_some_iff.mp h
  rw [constant, capitalize, String.toList_ofList, hcs, capitalizeFirst]
  rcases toCapital_cases c with hself | ⟨-, d, hd, -⟩
  · rw [hself]
    rfl
  · rw [List.head?_append, hd]
    rfl

/-- The constant of a value that the check accepts is exported just if the value starts with a
capital letter, or with a character that has another capital form and an ordinary one. -/
theorem isExported_constant_iff {name : String} {kind : Kind} {values : List String}
    (h : check name kind values = .ok ()) : ∀ value ∈ values, ∃ c,
      value.toList.head? = some c ∧
      (isExported (constant value) = true ↔
        isCapital c = true ∨ (toCapital c ≠ [c] ∧ isOddlyCapitalized c = false)) := by
  intro value hvalue
  -- An accepted value has a first character, since the empty text gives no identifier.
  have hne : value ≠ "" := by
    rintro rfl
    exact (check_eq_ok_iff.mp h).empty_not_mem hvalue
  obtain ⟨c, cs, hcs⟩ := List.exists_cons_of_ne_nil (mt String.toList_eq_nil_iff.mp hne)
  have hhead : value.toList.head? = some c := by
    rw [hcs]
    rfl
  refine ⟨c, hhead, ?_⟩
  rw [isExported, head?_constant hhead]
  exact isCapital_head_toCapital_iff c

/-- A small letter whose capital is spelt with two letters, and a small Roman numeral. -/
theorem isExported_constant_roman :
    check "Grade" .string ["ßharp", "ⅳ"] = .ok () ∧
    isExported (constant "ßharp") = true ∧ isExported (constant "ⅳ") ≠ true := by
  have hcheck : check "Grade" .string ["ßharp", "ⅳ"] = .ok () := by decide +kernel
  obtain ⟨c, hc, hsharp⟩ := isExported_constant_iff hcheck "ßharp" (by decide)
  obtain ⟨d, hd, hroman⟩ := isExported_constant_iff hcheck "ⅳ" (by decide)
  obtain rfl : 'ß' = c := Option.some.inj hc
  obtain rfl : 'ⅳ' = d := Option.some.inj hd
  exact ⟨hcheck, hsharp.mpr (by decide +kernel), mt hroman.mp (by decide +kernel)⟩

/-- The check accepts a value that starts with `_`, which has no capital form. -/
theorem not_isExported_blank :
    check "Color" .string ["_x"] = .ok () ∧ isExported (constant "_x") = false := by
  decide +kernel

end GoEnum.Naming

/-
  Which words no declaration takes.

  Keywords, predeclared words and imports are all written in small letters and digits,
  and start with a letter. A name that the file makes up has a capital from what is put
  before or after the name of the enumeration, and a constant does not start with an
  ASCII small letter, since no capital form does. So only the name of the type itself
  could be such a word, and that is the one name that the check looks up
  (`declares_freeNames`).
-/
import GoEnum.Proofs.Naming.Declared
import GoEnum.Proofs.Naming.Exported
import GoEnum.Proofs.Naming.FirstConflict
import GoEnum.Proofs.Text.Ascii

namespace GoEnum.Naming

open Text Lexeme

/-! ### Words that start small -/

/-- Keywords and reserved words start with an ASCII small letter, and hold no ASCII capital. -/
theorem reserved_spec : ∀ word ∈ keywords ++ reserved,
    word.toList.head?.any Char.isLower = true ∧ word.toList.any Char.isUpper = false := by
  have hall : ((keywords ++ reserved).all fun word =>
      word.toList.head?.any Char.isLower && !word.toList.any Char.isUpper) = true := by
    decide +kernel
  simpa only [List.all_eq_true, Bool.and_eq_true, Bool.not_eq_true'] using hall

/-- Whether a word can name a declaration: it is neither a keyword nor a reserved word. -/
def IsFree (word : String) : Prop :=
  word ∉ keywords ∧ word ∉ reserved

theorem isFree_iff {word : String} : IsFree word ↔ word ∉ keywords ++ reserved := by
  rw [IsFree, List.mem_append, not_or]

/-- What holds an ASCII capital is free. -/
theorem isFree_of_isUpper {word : String} {c : Char} (hc : c.isUpper = true)
    (hmem : c ∈ word.toList) : IsFree word := by
  rw [isFree_iff]
  intro hword
  exact List.any_eq_false.mp (reserved_spec word hword).2 c hmem hc

/-- What does not start with an ASCII small letter is free. -/
theorem isFree_of_head? {word : String} (h : ∀ c ∈ word.toList.head?, c.isLower = false) :
    IsFree word := by
  rw [isFree_iff]
  intro hword
  obtain ⟨c, hc, hlower⟩ := (Option.any_eq_true _ _).mp (reserved_spec word hword).1
  rw [h c hc] at hlower
  exact Bool.noConfusion hlower

/-! ### Names that are derived -/

/-- A constant does not start with an ASCII small letter. -/
theorem isLower_of_mem_head?_constant {value : String} {d : Char}
    (h : d ∈ (constant value).toList.head?) : d.isLower = false := by
  cases hvalue : value.toList.head? with
  | none =>
    obtain rfl : value = "" := String.toList_eq_nil_iff.mp (List.head?_eq_none_iff.mp hvalue)
    simp [show (constant "").toList = [] by decide] at h
  | some c =>
    rw [head?_constant hvalue] at h
    exact isLower_of_mem_head?_toCapital h

/-- Each name that is made of the name of the enumeration has a capital from what is put before or
after it. -/
theorem exists_isUpper_of_mem_declaredNames {name s : String} {kind : Kind}
    (h : s ∈ declaredNames name kind) (hne : s ≠ name) : ∃ c ∈ s.toList, c.isUpper = true := by
  rcases cases_of_mem_declaredNames h with hcommon | rfl | ⟨backing, rfl⟩
  · simp only [commonNames, List.mem_cons, List.not_mem_nil, or_false] at hcommon
    rcases hcommon with hname | rfl | rfl | rfl
    · exact absurd hname hne
    · exact ⟨'P', by simp [parseFunction], by decide⟩
    · exact ⟨'V', by simp [valuesFunction], by decide⟩
    · exact ⟨'E', by simp [invalidError], by decide⟩
  · exact ⟨'N', by simp [namesTable], by decide⟩
  · exact ⟨'F', by simp [fromFunction], by decide⟩

theorem isFree_of_mem_declaredNames {name s : String} {kind : Kind}
    (h : s ∈ declaredNames name kind) (hne : s ≠ name) : IsFree s := by
  obtain ⟨c, hc, hupper⟩ := exists_isUpper_of_mem_declaredNames h hne
  exact isFree_of_isUpper hupper hc

/-- A constant is free, whatever its value is. -/
theorem isFree_constant (value : String) : IsFree (constant value) :=
  isFree_of_head? fun _ => isLower_of_mem_head?_constant

/-! ### What the check lets through -/

/-- No name that a file declares on the level of the package is a keyword, predeclared or an import,
if the check accepts the name and the values. The check itself looks only for the name of the
type. -/
theorem declares_freeNames {name : String} {kind : Kind} {values : List String}
    (h : check name kind values = .ok ()) :
    ∀ s, s ∈ declaredNames name kind ∨ s ∈ values.map constant →
      s ∉ keywords ∧ s ∉ reserved := by
  rintro s (hdeclared | hconstant)
  · by_cases hname : s = name
    · obtain ⟨hchecked, -⟩ := compatible_iff.mp (check_eq_ok_iff.mp h)
      rw [hname]
      exact ⟨hchecked.not_keyword, hchecked.not_reserved⟩
    · exact isFree_of_mem_declaredNames hdeclared hname
  · obtain ⟨value, -, rfl⟩ := List.mem_map.mp hconstant
    exact isFree_constant value

/-- A package named like an import, and values that differ from words of the language by a capital,
by two, or by what stands before them. -/
theorem declares_freeNames_fmt :
    check "Fmt" (.int "byte") ["func", "nil", "ßtring", "_if"] = .ok () ∧
    ∀ s, s ∈ declaredNames "Fmt" (.int "byte") ∨
        s ∈ ["func", "nil", "ßtring", "_if"].map constant →
      s ∉ keywords ∧ s ∉ reserved := by
  have hcheck : check "Fmt" (.int "byte") ["func", "nil", "ßtring", "_if"] = .ok () := by
    decide
  exact ⟨hcheck, declares_freeNames hcheck⟩

end GoEnum.Naming

/-
  The names that are special on the level of the package.

  Apart from keywords and predeclared words, the language keeps `init` for functions, and
  a package called `main` needs a function of that name, which no file has. The names whose
  package is `main` are those that are spelt so in capital and small ASCII letters. None of
  these names is in the lists that the check looks into, and whatever the kind is, the
  value `A` can be declared beside the names of the file. So the check refuses no special
  name for what it is (`refusesSpecial_iff`).
-/
import GoEnum.Proofs.Naming.Reserved
import GoEnum.Proofs.Text.SmallAscii

namespace GoEnum.Naming

open Text Lexeme

/-- Whether the language has another use for a name that is neither a keyword nor taken: only
functions can be called `init`, and a package `main` needs a function of that name. -/
def IsSpecial (name : String) : Prop :=
  name = "init" ∨ packageName name = "main"

/-! ### Which names are special -/

/-- The names whose small form is `main` differ from it in the case of ASCII letters. -/
theorem packageName_eq_main_iff {name : String} :
    packageName name = "main" ↔ name.toList.map Char.toLower = "main".toList :=
  lowercase_eq_iff (by simp)

theorem isIdentifier_of_isAlphabetic {s : String} (hne : s.toList ≠ [])
    (h : ∀ c ∈ s.toList, isAlphabetic c = true) : isIdentifier s = true := by
  obtain ⟨c, cs, hcs⟩ := List.exists_cons_of_ne_nil hne
  rw [hcs, List.forall_mem_cons] at h
  have hblank : c ≠ '_' := by
    rintro rfl
    rw [isAlphabetic_ascii (by decide)] at h
    exact absurd h.1 (by decide)
  have hrest : ∀ d ∈ cs, isAlphanumeric d = true := by
    intro d hd
    rw [isAlphanumeric, h.2 d hd, Bool.true_or]
  simp [isIdentifier, hcs, isIdentifierChars, h.1, hblank]
  exact fun d hd => Or.inr (hrest d hd)

/-- A character that is an ASCII small letter after it is brought to small case is a letter. -/
theorem isAlphabetic_of_isLower_toLower {c : Char} (h : c.toLower.isLower = true) :
    isAlphabetic c = true := by
  have hrange := isLower_iff.mp h
  have hascii : c.toNat < 0x80 := toNat_lt_of_toLower (by omega)
  rw [isAlphabetic_ascii hascii]
  show (c.isUpper || c.isLower) = true
  cases hupper : c.isUpper with
  | true => rfl
  | false => rwa [toLower_of_not_isUpper hupper] at h

theorem isTypeName_of_isSpecial {name : String} (h : IsSpecial name) : IsTypeName name := by
  rcases h with rfl | hmain
  · exact isUsableName_iff.mp (by decide)
  · have hchars := packageName_eq_main_iff.mp hmain
    have hsmall : ∀ c ∈ name.toList, c.toLower.isLower = true := by
      have hall : ∀ d ∈ "main".toList, d.isLower = true := by simp
      intro c hc
      exact hall _ (hchars ▸ List.mem_map_of_mem hc)
    -- A keyword or reserved word would be `main` as it stands, since it has no capital.
    have hfree : IsFree name := by
      rw [isFree_iff]
      intro hword
      have hnone := List.any_eq_false.mp (reserved_spec name hword).2
      have hself : name.toList.map Char.toLower = name.toList.map id :=
        List.map_congr_left fun c hc => toLower_of_not_isUpper (Bool.eq_false_iff.mpr (hnone c hc))
      rw [List.map_id, hchars] at hself
      obtain rfl : name = "main" := String.toList_inj.mp hself.symm
      exact absurd hword (by decide)
    refine ⟨?identifier, hfree.1, hfree.2, ?package⟩
    case identifier =>
      refine isIdentifier_of_isAlphabetic ?_ fun c hc =>
        isAlphabetic_of_isLower_toLower (hsmall c hc)
      intro hnil
      simp [hnil] at hchars
    case package =>
      rw [hmain]
      decide

/-! ### What the check does with them -/

/-- What is reported of values is about one of them. -/
theorem checkValues_ne_unusableName (taken values : List String) (name : String) :
    checkValues taken values ≠ .error (.unusableName name) := by
  intro h
  by_cases hdeclarable : Declarable taken values
  · rw [checkValues_eq_ok_iff.mpr hdeclarable] at h
    exact absurd h (by simp)
  · obtain ⟨i, value, -, -, herror⟩ := checkValues_eq_error hdeclarable
    rw [herror, conflictOf] at h
    split at h <;> exact absurd h (by simp)

/-- A special name can be used with some value, whatever the kind is. -/
theorem declarable_of_isSpecial {name : String} (h : IsSpecial name) (kind : Kind) :
    Declarable (declaredNames name kind) ["A"] := by
  have hname : "A" ≠ name := by
    rintro rfl
    rcases h with hinit | hmain
    · exact absurd hinit (by decide)
    · exact absurd hmain (by decide)
  have hfresh : "A" ∉ declaredNames name kind := by
    intro hmem
    have hlength := four_le_length_of_mem_declaredNames hmem hname
    exact absurd hlength (by decide)
  have hconstant : constant "A" = "A" := by decide
  refine Declarable.cons_iff.mpr ⟨⟨by decide, ?_⟩, Declarable.nil _⟩
  rwa [hconstant]

/-- The names that are special to the language are `init`, and `main` in any mixture of capital and
small letters. The check never refuses one for itself: it refuses it just with values that cannot be
declared, as it refuses any other name, and accepts it with a value such as `A`. -/
theorem refusesSpecial_iff {name : String} (h : IsSpecial name) (kind : Kind)
    (values : List String) :
    (name = "init" ∨ name.toList.map Char.toLower = "main".toList) ∧
    check name kind values ≠ .error (.unusableName name) ∧
    (check name kind values ≠ .ok () ↔ ¬Declarable (declaredNames name kind) values) ∧
    check name kind ["A"] = .ok () := by
  have hname := isTypeName_of_isSpecial h
  rw [check_of_isTypeName hname, check_of_isTypeName hname]
  exact ⟨h.imp_right packageName_eq_main_iff.mp, checkValues_ne_unusableName _ values name,
    checkValues_eq_ok_iff.not, checkValues_eq_ok_iff.mpr (declarable_of_isSpecial h kind)⟩

/-- In capital letters with a value that meets the function that reads values. -/
theorem refusesSpecial_iff_capitals :
    IsSpecial "MAIN" ∧
    check "MAIN" .string ["parseMAIN"] ≠ .error (.unusableName "MAIN") ∧
    (check "MAIN" .string ["parseMAIN"] ≠ .ok () ↔
      ¬Declarable (declaredNames "MAIN" .string) ["parseMAIN"]) ∧
    check "MAIN" .string ["A"] = .ok () := by
  have hspecial : IsSpecial "MAIN" := Or.inr (by decide)
  exact ⟨hspecial, (refusesSpecial_iff hspecial .string ["parseMAIN"]).2⟩

/-- The check accepts the name `init`, and a name whose package is `main`. -/
theorem accepts_init_main :
    check "init" .string ["A"] = .ok () ∧
    check "Main" .string ["A"] = .ok () ∧ packageName "Main" = "main" := by
  decide

end GoEnum.Naming

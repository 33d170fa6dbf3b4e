/-
  Which value the check reports.

  What the check decides can be said without the order in which it looks at things:
  the name can be a type and a package (`IsTypeName`), and the values can be declared
  beside what the file declares (`Declarable`). So acceptance does not depend on the
  order of the values. What is reported does: it is the value at the end of the
  shortest prefix that cannot be declared (`checkValues_eq_error`), and of that value
  either that its constant is no identifier or else that the constant is taken.
-/
import GoEnum.Proofs.Naming.Check
import Mathlib.Order.Bounds.Basic

namespace GoEnum.Naming

/-! ### What is asked of the name -/

/-- A name that can be a type and, in small letters, a package. -/
structure IsTypeName (name : String) : Prop where
  /-- It is an identifier. -/
  identifier : Lexeme.isIdentifier name = true
  /-- It is no keyword. -/
  not_keyword : name ∉ Lexeme.keywords
  /-- It hides nothing that is predeclared or imported. -/
  not_reserved : name ∉ Lexeme.reserved
  /-- In small letters, it is no keyword either. -/
  package_not_keyword : packageName name ∉ Lexeme.keywords

theorem isUsableName_iff {name : String} : isUsableName name = true ↔ IsTypeName name := by
  simp only [isUsableName, Bool.and_eq_true, Bool.not_eq_true', List.contains_eq_mem,
    decide_eq_false_iff_not]
  constructor
  · rintro ⟨⟨⟨hid, hkeyword⟩, hreserved⟩, hpackage⟩
    exact ⟨hid, hkeyword, hreserved, hpackage⟩
  · rintro ⟨hid, hkeyword, hreserved, hpackage⟩
    exact ⟨⟨⟨hid, hkeyword⟩, hreserved⟩, hpackage⟩

variable {name : String} {kind : Kind} {taken values : List String}

theorem check_of_isTypeName (h : IsTypeName name) :
    check name kind values = checkValues (declaredNames name kind) values := by
  rw [check, if_pos (isUsableName_iff.mpr h)]

theorem check_of_not_isTypeName (h : ¬ IsTypeName name) :
    check name kind values = .error (.unusableName name) := by
  rw [check, if_neg (mt isUsableName_iff.mp h)]

/-! ### What is accepted -/

theorem compatible_iff :
    Compatible name kind values ↔
      IsTypeName name ∧ Declarable (declaredNames name kind) values := by
  constructor
  · rintro ⟨husable, hids, hnodup, hfresh⟩
    exact ⟨isUsableName_iff.mp husable, hids, hnodup, hfresh⟩
  · rintro ⟨hname, hids, hnodup, hfresh⟩
    exact ⟨isUsableName_iff.mpr hname, hids, hnodup, hfresh⟩

theorem Compatible.of_perm {others : List String} (hperm : others.Perm values)
    (h : Compatible name kind values) : Compatible name kind others where
  usable := h.usable
  identifiers := fun value hvalue => h.identifiers value (hperm.mem_iff.mp hvalue)
  distinct := (hperm.map constant).nodup_iff.mpr h.distinct
  fresh := fun value hvalue => h.fresh value (hperm.mem_iff.mp hvalue)

/-! ### What is reported -/

theorem message_conflictOf (value : String) :
    (conflictOf value).message =
      if Lexeme.isIdentifier (constant value) then
        "value '" ++ value ++ "' collides with another identifier named " ++ constant value
      else "value '" ++ value ++ "' does not form a Go identifier" := by
  unfold conflictOf
  split <;> rfl

/-- If the values cannot all be declared, the last one of the shortest prefix that cannot be
declared is reported. -/
theorem checkValues_eq_error (h : ¬ Declarable taken values) :
    ∃ i value, values[i]? = some value ∧
      IsLeast {i | ¬ Declarable taken (values.take (i + 1))} i ∧
      checkValues taken values = .error (conflictOf value) := by
  induction values generalizing taken with
  | nil => exact absurd (Declarable.nil taken) h
  | cons first values ih =>
    by_cases hfirst : Lexeme.isIdentifier (constant first) = true ∧ constant first ∉ taken
    · -- The first value is declared, so the offender is one of the others, one place further on.
      have hrest : ¬ Declarable (constant first :: taken) values :=
        fun hrest => h (Declarable.cons_iff.mpr ⟨hfirst, hrest⟩)
      obtain ⟨i, value, hvalue, ⟨hviolates, hleast⟩, herror⟩ := ih hrest
      refine ⟨i + 1, value, hvalue, ⟨?violates, ?least⟩, ?error⟩
      case violates =>
        intro hprefix
        exact hviolates (Declarable.cons_iff.mp hprefix).2
      case least =>
        intro j hj
        -- A shorter prefix holds the first value too, and the others are a shorter prefix of the
        -- rest.
        cases j with
        | zero => exact absurd (Declarable.cons_iff.mpr ⟨hfirst, Declarable.nil _⟩) hj
        | succ j =>
          apply Nat.succ_le_succ
          apply hleast
          intro hprefix
          exact hj (Declarable.cons_iff.mpr ⟨hfirst, hprefix⟩)
      case error => rw [checkValues_cons, if_pos hfirst, herror]
    · -- The prefix that holds just the first value cannot be declared.
      refine ⟨0, first, rfl, ⟨?_, fun j _ => Nat.zero_le j⟩, ?_⟩
      · intro hprefix
        exact hfirst (Declarable.cons_iff.mp hprefix).1
      · rw [checkValues_cons, if_neg hfirst]

/-! ### The check as a whole -/

/-- The check accepts a name and values just if the name can be a type and a package and the values
can be declared beside what the file declares, in whatever order they stand. A name is refused
before any value is looked at. Otherwise the value is reported with which the shortest prefix ends
that cannot be declared. -/
theorem check_decides (name : String) (kind : Kind) (values : List String) :
    (check name kind values = .ok () ↔
      IsTypeName name ∧ Declarable (declaredNames name kind) values) ∧
    (∀ others : List String, others.Perm values →
      (check name kind others = .ok () ↔ check name kind values = .ok ())) ∧
    (¬ IsTypeName name → check name kind values = .error (.unusableName name)) ∧
    (IsTypeName name → check name kind values ≠ .ok () → ∃ i value conflict,
      values[i]? = some value ∧
      IsLeast {i | ¬ Declarable (declaredNames name kind) (values.take (i + 1))} i ∧
      check name kind values = .error conflict ∧
      conflict.message =
        if Lexeme.isIdentifier (constant value) then
          "value '" ++ value ++ "' collides with another identifier named " ++ constant value
        else "value '" ++ value ++ "' does not form a Go identifier") := by
  refine ⟨check_eq_ok_iff.trans compatible_iff, ?perm, check_of_not_isTypeName, ?first⟩
  case perm =>
    intro others hperm
    rw [check_eq_ok_iff, check_eq_ok_iff]
    exact ⟨Compatible.of_perm hperm.symm, Compatible.of_perm hperm⟩
  case first =>
    intro hname hrefused
    rw [check_of_isTypeName hname] at hrefused ⊢
    obtain ⟨i, value, hvalue, hleast, herror⟩ :=
      checkValues_eq_error (mt checkValues_eq_ok_iff.mpr hrefused)
    exact ⟨i, value, conflictOf value, hvalue, hleast, herror, message_conflictOf value⟩

/-- The capital of the sharp s is spelt with two letters, so the third value meets the second. -/
theorem check_decides_sharpS :
    ∃ i value conflict, ["ok", "ßa", "SSa", "1st"][i]? = some value ∧
      IsLeast {i | ¬ Declarable (declaredNames "Street" .string)
        (["ok", "ßa", "SSa", "1st"].take (i + 1))} i ∧
      check "Street" .string ["ok", "ßa", "SSa", "1st"] = .error conflict ∧
      conflict.message =
        if Lexeme.isIdentifier (constant value) then
          "value '" ++ value ++ "' collides with another identifier named " ++ constant value
        else "value '" ++ value ++ "' does not form a Go identifier" :=
  (check_decides "Street" .string ["ok", "ßa", "SSa", "1st"]).2.2.2
    (isUsableName_iff.mp (by decide +kernel)) (by decide +kernel)

end GoEnum.Naming

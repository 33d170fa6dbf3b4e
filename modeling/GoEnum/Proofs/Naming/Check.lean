/-
  What the check of a name and its values accepts.

  `Compatible` says it without the order of the checks: the name is usable, each
  constant is an identifier, no two constants coincide, and none is declared by
  the file itself. The check accepts just this (`check_eq_ok_iff`).
-/
import GoEnum.Naming
import GoEnum.Proofs.Lexeme.Identifier
import Mathlib.Data.List.Nodup

namespace GoEnum.Naming

/-- A name and values that can be used together. -/
structure Compatible (name : String) (kind : Kind) (values : List String) : Prop where
  /-- The name can be a type and, in small letters, a package. -/
  usable : isUsableName name = true
  /-- Each value gives an identifier. -/
  identifiers : ∀ value ∈ values, Lexeme.isIdentifier (constant value) = true
  /-- No two values give the same constant. -/
  distinct : (values.map constant).Nodup
  /-- No constant has the name of a declaration of the file. -/
  fresh : ∀ value ∈ values, constant value ∉ declaredNames name kind

/-! ### The values -/

/-- Values whose constants can all be declared where the names of `taken` are declared already. -/
structure Declarable (taken values : List String) : Prop where
  /-- Each value gives an identifier. -/
  identifiers : ∀ value ∈ values, Lexeme.isIdentifier (constant value) = true
  /-- No two values give the same constant. -/
  distinct : (values.map constant).Nodup
  /-- No constant is taken. -/
  fresh : ∀ value ∈ values, constant value ∉ taken

namespace Declarable

variable {taken values : List String}

theorem nil (taken : List String) : Declarable taken [] :=
  ⟨by simp, List.nodup_nil, by simp⟩

/-- The first value is declared, and the others are where its constant is taken too. -/
theorem cons_iff {value : String} :
    Declarable taken (value :: values) ↔
      (Lexeme.isIdentifier (constant value) = true ∧ constant value ∉ taken) ∧
        Declarable (constant value :: taken) values := by
  constructor
  · rintro ⟨hids, hnodup, hfresh⟩
    rw [List.forall_mem_cons] at hids hfresh
    rw [List.map_cons, List.nodup_cons] at hnodup
    refine ⟨⟨hids.1, hfresh.1⟩, hids.2, hnodup.2, ?_⟩
    intro other hother hmem
    rcases List.mem_cons.mp hmem with heq | hmem
    · exact hnodup.1 (heq ▸ List.mem_map_of_mem hother)
    · exact hfresh.2 other hother hmem
  · rintro ⟨⟨hid, hnew⟩, hids, hnodup, hfresh⟩
    refine ⟨List.forall_mem_cons.mpr ⟨hid, hids⟩, ?_, List.forall_mem_cons.mpr ⟨hnew, ?_⟩⟩
    · rw [List.map_cons, List.nodup_cons]
      refine ⟨?_, hnodup⟩
      intro hmem
      obtain ⟨other, hother, heq⟩ := List.mem_map.mp hmem
      exact hfresh other hother (heq ▸ List.mem_cons_self)
    · intro other hother hmem
      exact hfresh other hother (List.mem_cons_of_mem _ hmem)

end Declarable

/-- What is reported of a value whose constant cannot be declared. -/
def conflictOf (value : String) : Conflict :=
  if Lexeme.isIdentifier (constant value) then .taken value (constant value)
  else .notIdentifier value

variable {taken values : List String}

/-- The values after the first one are looked at just if the first one can be declared. -/
theorem checkValues_cons (value : String) :
    checkValues taken (value :: values) =
      if Lexeme.isIdentifier (constant value) = true ∧ constant value ∉ taken then
        checkValues (constant value :: taken) values
      else .error (conflictOf value) := by
  rw [checkValues, conflictOf]
  by_cases hid : Lexeme.isIdentifier (constant value) = true
  · by_cases htaken : constant value ∈ taken
    · simp [hid, htaken]
    · simp [hid, htaken]
  · simp [hid]

theorem checkValues_eq_ok_iff : checkValues taken values = .ok () ↔ Declarable taken values := by
  induction values generalizing taken with
  | nil => exact ⟨fun _ => Declarable.nil taken, fun _ => rfl⟩
  | cons value values ih =>
    rw [checkValues_cons, Declarable.cons_iff]
    split
    · rename_i hvalue
      rw [ih, and_iff_right hvalue]
    · rename_i hvalue
      constructor
      · intro h
        exact absurd h (by simp)
      · intro h
        exact absurd h.1 hvalue

/-! ### The name and the values -/

/-- The check accepts a name and values just if they can be used together. -/
theorem check_eq_ok_iff {name : String} {kind : Kind} {values : List String} :
    check name kind values = .ok () ↔ Compatible name kind values := by
  by_cases husable : isUsableName name = true
  · rw [check, if_pos husable, checkValues_eq_ok_iff]
    constructor
    · rintro ⟨hids, hnodup, hfresh⟩
      exact ⟨husable, hids, hnodup, hfresh⟩
    · rintro ⟨-, hids, hnodup, hfresh⟩
      exact ⟨hids, hnodup, hfresh⟩
  · rw [check, if_neg husable]
    constructor
    · intro h
      exact absurd h (by simp)
    · intro h
      exact absurd h.usable husable

namespace Compatible

variable {name : String} {kind : Kind} {values : List String}

theorem isIdentifier_name (h : Compatible name kind values) :
    Lexeme.isIdentifier name = true := by
  have husable := h.usable
  simp only [isUsableName, Bool.and_eq_true] at husable
  exact husable.1.1.1

/-- No value is the empty text, whose constant is no identifier. -/
theorem empty_not_mem (h : Compatible name kind values) : "" ∉ values := by
  intro hmem
  exact absurd (h.identifiers "" hmem) (by decide)

/-- Values are distinct, since their constants are. -/
theorem nodup (h : Compatible name kind values) : values.Nodup :=
  List.Nodup.of_map constant h.distinct

end Compatible

end GoEnum.Naming

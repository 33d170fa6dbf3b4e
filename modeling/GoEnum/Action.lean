/-
  Actions: what the program does on a host, and may fail at.
-/
import GoEnum.Failure
import GoEnum.Host

namespace GoEnum

/-- An action on a host that gives a result or fails. -/
abbrev Action (m : Type → Type) := ExceptT Failure m

namespace Action

variable {m : Type → Type} [Monad m] [Host m]

/-- Runs an operation of the host; an error it reports becomes the failure that `blame` makes of
it. -/
def attempt {ε α : Type} (blame : ε → Failure) (operation : m (Except ε α)) : Action m α :=
  ExceptT.mk do return (← operation).mapError blame

/-- Logs an event. -/
def note (level : Log.Level) (part : Log.Part) (message : String) : Action m Unit :=
  ExceptT.lift (Host.log ⟨level, part, message⟩)

/-- Gives a result, or fails. -/
def ofExcept {α : Type} (result : Except Failure α) : Action m α :=
  ExceptT.mk (return result)

end Action

end GoEnum

/-
  Reading the settings from their file.
-/
import GoEnum.Action
import GoEnum.Settings

namespace GoEnum.Settings

variable {m : Type → Type} [Monad m] [Host m]

/-- The settings that the content of a file spells, or the failure that reports why it spells
none. -/
def ofContent (path : Path) (bytes : List UInt8) : Except Failure Settings :=
  (parse bytes).mapError fun fault =>
    .configuration ("invalid config " ++ path.shown ++ ": " ++ fault.message bytes)

/-- The failure that reports why a file could not be read. -/
def unreadable (path : Path) : ReadError → Failure
  | .opening cause => .configuration ("cannot open " ++ path.shown ++ ": " ++ cause.message)
  | .reading cause => .configuration ("invalid config " ++ path.shown ++ ": " ++ cause.message)

/-- The settings in a file. -/
def load (path : Path) : Action m Settings := do
  Action.note .debug .settings ("Loading config " ++ path.shown)
  let bytes ← Action.attempt (unreadable path) (Host.read path)
  Action.ofExcept (ofContent path bytes)

end GoEnum.Settings

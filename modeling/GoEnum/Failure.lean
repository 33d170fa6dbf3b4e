/-
  Failures of a run, and the statuses with which the program ends.
-/
import GoEnum.Disk.OsError
import GoEnum.Disk.Path

namespace GoEnum

/-- Why a run failed. -/
inductive Failure where
  /-- The arguments make no sense. -/
  | usage (text : String)
  /-- The settings or the target directory cannot be used. -/
  | configuration (text : String)
  /-- A directory or file could not be made or written. -/
  | io (path : Path) (cause : OsError)
  /-- The text of the file could not be formatted. -/
  | rendering
  /-- A constant is too long to be padded. The run breaks off. -/
  | fieldTooWide
deriving Repr, DecidableEq

/-- The text that reports the failure. -/
def Failure.message : Failure → String
  | .usage text => "usage: " ++ text
  | .configuration text => "configuration: " ++ text
  | .io path cause => "unable to write " ++ path.shown ++ ": " ++ cause.message
  | .rendering =>
    "failed to render template: formatting error: an error occurred when formatting an argument"
  | .fieldTooWide => "Formatting argument out of range"

/-- The status with which the program ends after the failure. -/
def Failure.exitStatus : Failure → Nat
  | .usage _ => 2
  | .fieldTooWide => 101
  | _ => 1

end GoEnum

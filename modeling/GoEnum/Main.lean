/-
  The command line program, on the disk of the machine it runs on.

  This module only connects: it answers the questions of a `Host` by operations of
  the system, shows log events as they come, and prints the report of the run.
  Paths that are no UTF-8 cannot be passed to the system from here and are passed
  with replacement characters.
-/
import GoEnum.Program

namespace GoEnum.Machine

/-- The error that an operation of the system reports. -/
def osError : IO.Error → OsError
  | .alreadyExists _ code _ | .otherError code _ | .resourceBusy code _
  | .resourceVanished code _ | .unsupportedOperation code _ | .hardwareFault code _
  | .unsatisfiedConstraints code _ | .illegalOperation code _ | .protocolError code _
  | .timeExpired code _ | .interrupted _ code _ | .noFileOrDirectory _ code _
  | .invalidArgument _ code _ | .permissionDenied _ code _ | .resourceExhausted _ code _
  | .inappropriateType _ code _ | .noSuchThing _ code _ => .code code.toNat
  | .unexpectedEof => .other "unexpected end of file"
  | .userError text => .other text

/-- The outcome of an operation of the system. -/
def outcome {α : Type} (operation : IO α) : IO (Except OsError α) := do
  match ← operation.toBaseIO with
  | .ok a => return .ok a
  | .error e => return .error (osError e)

/-- The content of a file. -/
def content (path : String) : IO (Except ReadError (List UInt8)) := do
  match ← outcome (IO.FS.Handle.mk path .read) with
  | .error cause => return .error (.opening cause)
  | .ok handle =>
    match ← outcome handle.readBinToEnd with
    | .error cause => return .error (.reading cause)
    | .ok bytes => return .ok bytes.toList

/-- What is at a path: a directory can be opened, but not read. -/
def place (path : String) : IO (Except OsError Place) := do
  match ← outcome (IO.FS.Handle.mk path .read) with
  | .error cause => return .error cause
  | .ok handle =>
    match ← outcome (handle.read 1) with
    | .error .isADirectory => return .ok .directory
    | _ => return .ok .file

/-- The machine as a host; log events are shown up to a level. -/
abbrev Session := ReaderT Log.Level IO

instance : Host Session where
  place p := place p.shown
  makeDirectory p := outcome (IO.FS.createDir p.shown)
  openEmpty p := outcome (IO.FS.writeBinFile p.shown .empty)
  write p bytes := outcome (IO.FS.writeBinFile p.shown ⟨bytes.toArray⟩)
  read p := content p.shown
  log event := do
    if event.isShown (← read) then IO.eprintln event.line

/-- Runs the program with the arguments of a process, and gives its exit status. -/
def run (arguments : List Path) : IO UInt32 := do
  let report ← (Program.run arguments : Session _).run (Program.threshold arguments)
  IO.print report.output
  for line in report.complaint do IO.eprintln line
  return report.status.toUInt32

end GoEnum.Machine

/-- The program. -/
def main (arguments : List String) : IO UInt32 :=
  GoEnum.Machine.run (arguments.map GoEnum.Path.ofText)

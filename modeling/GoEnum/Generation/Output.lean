/-
  Putting a generated text into a file.

  The directories on the way are made first, from the nearest missing one up to
  the first that is there. The file is then opened, which empties it, before its
  text is produced, so a text that cannot be produced leaves an empty file behind.
-/
import GoEnum.Action

namespace GoEnum.Generation

variable {m : Type → Type} [Monad m] [Host m]

/-- Whether there is a directory at a path. -/
def isDirectory (p : Path) : m Bool := do
  match ← Host.place p with
  | .ok .directory => return true
  | _ => return false

/-- Makes a directory whose parent exists; it may be there already. -/
def ensureDirectory (p : Path) : m (Except OsError Unit) := do
  match ← Host.makeDirectory p with
  | .error .alreadyExists =>
    if ← isDirectory p then return .ok () else return .error .alreadyExists
  | result => return result

/-- Makes the first of some directories, each of which is in the next one, and before it those of
the others that are missing. -/
def ensureLineage : List Path → m (Except OsError Unit)
  | [] => return .ok ()
  | p :: above => do
    match ← ensureDirectory p with
    | .error .notFound =>
      match ← ensureLineage above with
      | .ok () => ensureDirectory p
      | .error cause => return .error cause
    | result => return result

/-- Makes a directory and the directories above it that are missing. -/
def ensureDirectories (p : Path) : m (Except OsError Unit) :=
  ensureLineage p.lineage

/-- Makes the directory that a file is put in, if its path has a parent. -/
def ensureParent (path : Path) : Action m Unit :=
  match path.parent? with
  | some parent => Action.attempt (.io parent) (ensureDirectories parent)
  | none => return ()

/-- Puts the text that `produce` gives into a file. -/
def writeGenerated (path : Path) (produce : Action m String) : Action m Unit := do
  ensureParent path
  Action.attempt (.io path) (Host.openEmpty path)
  let bytes := Text.Utf8.encode (← produce)
  Action.note .debug .file
    ("Writing " ++ toString bytes.length ++ " bytes to " ++ path.shown)
  Action.attempt (.io path) (Host.write path bytes)

end GoEnum.Generation

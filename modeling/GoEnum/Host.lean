/-
  What the program asks of its surroundings: a disk to work on and a place for
  log events. The program is written for any `Host`; the pure one is a tree of
  directories and files in memory.
-/
import GoEnum.Disk.OsError
import GoEnum.Disk.Path
import GoEnum.Log

namespace GoEnum

/-- What can be found at a path. -/
inductive Place where
  /-- A directory. -/
  | directory
  /-- A regular file. -/
  | file
deriving Repr, DecidableEq

/-- A monad in which the disk can be used and events can be logged. -/
class Host (m : Type → Type) where
  /-- What is at a path. -/
  place : Path → m (Except OsError Place)
  /-- Makes one directory, whose parent must exist. -/
  makeDirectory : Path → m (Except OsError Unit)
  /-- Opens a file for writing: makes it if it is missing, and empties it otherwise. -/
  openEmpty : Path → m (Except OsError Unit)
  /-- Gives the file that was opened at a path its content. -/
  write : Path → List UInt8 → m (Except OsError Unit)
  /-- The content of a file. -/
  read : Path → m (Except ReadError (List UInt8))
  /-- Logs an event. -/
  log : Log.Event → m Unit

end GoEnum

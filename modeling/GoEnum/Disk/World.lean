/-
  A host in memory: a tree of files, a working directory in it, and the events
  that were logged.
-/
import GoEnum.Disk.FileTree
import GoEnum.Host

namespace GoEnum.Disk

/-- The state of the host in memory. -/
structure World where
  /-- All directories and files. -/
  tree : FileTree
  /-- The working directory. -/
  here : Location
  /-- The events that were logged, the first one first. -/
  events : List Log.Event
deriving Repr, DecidableEq

namespace World

/-- A world with an empty working directory just below the root. -/
def fresh : World :=
  let here : Location := [Text.Utf8.encode "work"]
  ⟨⟨[(here, .directory)]⟩, here, []⟩

/-- A change of the tree, as an operation of the host: it leaves the tree alone if it fails. -/
def change (f : FileTree → Location → Except OsError FileTree) :
    StateM World (Except OsError Unit) := fun world =>
  match f world.tree world.here with
  | .ok tree => (.ok (), { world with tree })
  | .error cause => (.error cause, world)

end World

instance : Host (StateM World) where
  place p := fun world =>
    ((world.tree.resolve world.here p).map fun
      | (_, .directory) => .directory
      | (_, .file _) => .file, world)
  makeDirectory p := World.change fun tree here => tree.makeDirectory here p
  openEmpty p := World.change fun tree here => tree.store here p []
  write p content := World.change fun tree here => tree.store here p content
  read p := fun world => (world.tree.read world.here p, world)
  log event := modify fun world => { world with events := world.events ++ [event] }

end GoEnum.Disk

/-
  A tree of directories and regular files, and the operations on it.

  The tree is a list of entries by location; a location is the list of names from
  the root down, and the root is always there. A path is followed name by name
  from the working directory, or from the root if it is absolute. On the way
  everything must be a directory, `.` stays and `..` goes up; a name longer than
  `maxName` bytes is refused where it is looked up, and so is a path of `maxPath`
  bytes or more before anything is looked up.
-/
import GoEnum.Disk.OsError
import GoEnum.Disk.Path

namespace GoEnum.Disk

/-- The names from the root down to a place. -/
abbrev Location := List (List UInt8)

/-- What is stored at a location. -/
inductive Entry where
  /-- A directory; what it holds has entries of its own. -/
  | directory
  /-- A regular file. -/
  | file (content : List UInt8)
deriving Repr, DecidableEq

/-- Directories and files by location, in the order in which they were made. -/
structure FileTree where
  /-- The entries below the root. -/
  entries : List (Location × Entry)
deriving Repr, DecidableEq

/-- The greatest number of bytes of a name. -/
def maxName : Nat := 255

/-- The number of bytes from which on a path is too long. -/
def maxPath : Nat := 4096

namespace FileTree

/-- The entry at a location, if there is one. -/
def find? (tree : FileTree) (place : Location) : Option Entry :=
  if place = [] then some .directory else tree.entries.lookup place

/-- The list of entries with a new entry at a location, in place of the old one if there is
one. -/
def putEntry (place : Location) (entry : Entry) :
    List (Location × Entry) → List (Location × Entry)
  | [] => [(place, entry)]
  | (at', old) :: rest =>
    if at' = place then (place, entry) :: rest else (at', old) :: putEntry place entry rest

/-- The tree with a new entry at a location. -/
def put (tree : FileTree) (place : Location) (entry : Entry) : FileTree :=
  ⟨putEntry place entry tree.entries⟩

theorem lookup_putEntry (place other : Location) (entry : Entry)
    (entries : List (Location × Entry)) :
    (putEntry place entry entries).lookup other
      = if other = place then some entry else entries.lookup other := by
  induction entries with
  | nil =>
    by_cases h : other = place
    · simp [putEntry, h]
    · simp [putEntry, List.lookup_cons, h, beq_false_of_ne h]
  | cons head rest ih =>
    obtain ⟨at', old⟩ := head
    by_cases hat : at' = place
    · subst hat
      by_cases h : other = at'
      · simp [putEntry, h]
      · simp [putEntry, List.lookup_cons, h, beq_false_of_ne h]
    · by_cases h : other = at'
      · subst h
        simp [putEntry, hat]
      · simp [putEntry, List.lookup_cons, hat, beq_false_of_ne h, ih]

/-- What is put at a location below the root is found there, and nothing else changes. -/
theorem find?_put (tree : FileTree) (place other : Location) (entry : Entry) (h : place ≠ []) :
    (tree.put place entry).find? other
      = if other = place then some entry else tree.find? other := by
  unfold find? put
  by_cases hroot : other = []
  · subst hroot
    simp [Ne.symm h]
  · simp [hroot, lookup_putEntry]

/-- Fails unless there is a directory at the location. -/
def needDirectory (tree : FileTree) (place : Location) : Except OsError Unit :=
  match tree.find? place with
  | some .directory => .ok ()
  | _ => .error .notADirectory

/-- The location that a name leads to from a location. -/
def enter (tree : FileTree) (place : Location) (name : List UInt8) : Except OsError Location := do
  tree.needDirectory place
  if name = Path.dot then .ok place
  else if name = Path.dotDot then .ok place.dropLast
  else if maxName < name.length then .error .nameTooLong
  else if (tree.find? (place ++ [name])).isSome then .ok (place ++ [name])
  else .error .notFound

/-- The location that some names lead to, one after the other. -/
def follow (tree : FileTree) (place : Location) (names : List (List UInt8)) :
    Except OsError Location :=
  names.foldlM tree.enter place

/-- Fails if a path cannot be used at all. -/
def usable (p : Path) : Except OsError Unit :=
  if p.bytes.contains 0 then .error .zeroInPath
  else if p.bytes = [] then .error .notFound
  else if maxPath ≤ p.bytes.length then .error .nameTooLong
  else .ok ()

/-- Where a path starts, for a working directory. -/
def origin (here : Location) (p : Path) : Location :=
  if p.isAbsolute then [] else here

/-- The entry that a path leads to, with its location. -/
def resolve (tree : FileTree) (here : Location) (p : Path) : Except OsError (Location × Entry) := do
  usable p
  let place ← tree.follow (origin here p) p.names
  match tree.find? place with
  | some (.file content) =>
    if p.endsInSlash then .error .notADirectory else .ok (place, .file content)
  | some .directory => .ok (place, .directory)
  | none => .error .notFound

/-- The directory that the last name of a path is looked up in, with that name. There is no name
if the path leads to the root by itself, or if its last name is `.` or `..`. -/
def resolveParent (tree : FileTree) (here : Location) (p : Path) :
    Except OsError (Location × Option (List UInt8)) := do
  usable p
  match p.names.getLast? with
  | none => .ok ([], none)
  | some name =>
    let place ← tree.follow (origin here p) p.names.dropLast
    tree.needDirectory place
    .ok (place, if name = Path.dot ∨ name = Path.dotDot then none else some name)

/-- The tree with one more directory. -/
def makeDirectory (tree : FileTree) (here : Location) (p : Path) : Except OsError FileTree := do
  match ← tree.resolveParent here p with
  | (_, none) => .error .alreadyExists
  | (place, some name) =>
    if maxName < name.length then .error .nameTooLong
    else if (tree.find? (place ++ [name])).isSome then .error .alreadyExists
    else .ok (tree.put (place ++ [name]) .directory)

/-- The location of the file that a path names, when the file is opened for writing. -/
def writable (tree : FileTree) (here : Location) (p : Path) : Except OsError Location := do
  match ← tree.resolveParent here p with
  | (_, none) => .error .isADirectory
  | (place, some name) =>
    if p.endsInSlash then .error .isADirectory
    else if maxName < name.length then .error .nameTooLong
    else if tree.find? (place ++ [name]) = some .directory then .error .isADirectory
    else .ok (place ++ [name])

/-- The tree with a file of some content where a path leads. -/
def store (tree : FileTree) (here : Location) (p : Path) (content : List UInt8) :
    Except OsError FileTree :=
  (tree.writable here p).map fun place => tree.put place (.file content)

/-- The content of the file that a path leads to. A directory can be opened but not read. -/
def read (tree : FileTree) (here : Location) (p : Path) : Except ReadError (List UInt8) :=
  match tree.resolve here p with
  | .error cause => .error (.opening cause)
  | .ok (_, .directory) => .error (.reading .isADirectory)
  | .ok (_, .file content) => .ok content

/-- The path of an entry below a directory as a listing shows it: directories end in a slash. -/
def listed? (here : Location) (place : Location) (entry : Entry) : Option String :=
  if here.isPrefixOf place && here != place then
    let path := Text.Utf8.decodeLossy ([Path.slash].intercalate (place.drop here.length))
    some (match entry with
      | .directory => path ++ "/"
      | .file _ => path)
  else none

/-- Everything below a directory, in the order of the characters. -/
def listing (tree : FileTree) (here : Location) : List String :=
  (tree.entries.filterMap fun (place, entry) => listed? here place entry).mergeSort
    fun a b => decide (a ≤ b)

end FileTree

end GoEnum.Disk

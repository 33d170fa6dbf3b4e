/-
  Making the output file, before its text is produced.

  In a directory that the target leads to, the output file can be opened just if the
  tree accommodates it: the names and paths are not too long, and neither a file is
  where its directory has to be nor a directory where the file has to be
  (`yields_openOutput_iff`). The file is empty then, its directory is there, and
  nothing else has changed. Of the directories on the way only the last one is ever
  made, since the target leads to one.
-/
import GoEnum.Proofs.Generation.Directories

namespace GoEnum.Generation

open Disk FileTree GoEnum.Path

variable {world after : World} {place : Location} {p target : Path} {name file : List UInt8}

/-! ### The directory -/

/-- What comes of making a directory below one: it is there afterwards, unless there is no room or
a file is in its place. -/
theorem outcome_ensureDirectory_join
    (hp : world.tree.resolve world.here p = .ok (place, .directory)) (hname : IsEntryName name) :
    world.outcome (ensureDirectory (p.join ⟨name⟩)) =
      if HasRoom p name then
        if world.tree.find? (place ++ [name]) = none ∨
            world.tree.find? (place ++ [name]) = some .directory then
          (.ok (), { world with tree := world.tree.ensure (place ++ [name]) })
        else (.error .alreadyExists, world)
      else (.error .nameTooLong, world) := by
  rw [outcome_ensureDirectory, makeDirectory_join hp hname]
  by_cases hroom : HasRoom p name
  · rw [if_pos hroom, if_pos hroom]
    cases hfind : world.tree.find? (place ++ [name]) with
    | none =>
      simp only [Option.isSome_none, Bool.false_eq_true, if_false, true_or, if_true, ensure, hfind]
    | some entry =>
      -- Something is there, and the system is asked whether it is a directory.
      rw [resolve_join hp hname hroom hfind]
      simp only [Option.isSome_some, if_true, Option.some.injEq, reduceCtorEq, false_or, ensure,
        hfind]
      cases entry <;> rfl
  · rw [if_neg hroom, if_neg hroom]
    rfl

/-- The directories above are not asked for, since the directory can be made or is there. -/
theorem outcome_ensureDirectories_join
    (hp : world.tree.resolve world.here p = .ok (place, .directory)) (hname : IsEntryName name) :
    world.outcome (ensureDirectories (p.join ⟨name⟩)) =
      world.outcome (ensureDirectory (p.join ⟨name⟩)) := by
  have hne := bytes_ne_nil_of_usable (resolve_eq_directory_iff.mp hp).1
  obtain ⟨above, habove⟩ := lineage_join hne hname
  have hdirectory := outcome_ensureDirectory_join hp hname
  have hmade : (world.outcome (ensureDirectory (p.join ⟨name⟩))).1 ≠ .error .notFound := by
    rw [hdirectory]
    split_ifs
    · simp
    · exact fun h => absurd (Except.error.inj h) (by decide)
    · exact fun h => absurd (Except.error.inj h) (by decide)
  rw [ensureDirectories, habove]
  exact outcome_ensureLineage_of_ne above rfl hmade

/-- The directory of the output file is made, or is there already. -/
theorem yields_ensureParent_iff {result : Unit}
    (htarget : world.tree.resolve world.here target = .ok (place, .directory))
    (hname : IsEntryName name) (hfile : IsEntryName file) :
    Yields (ensureParent ((target.join ⟨name⟩).join ⟨file⟩)) world result after ↔
      HasRoom target name ∧
      (world.tree.find? (place ++ [name]) = none ∨
        world.tree.find? (place ++ [name]) = some .directory) ∧
      { world with tree := world.tree.ensure (place ++ [name]) } = after := by
  have hne := bytes_ne_nil_of_usable (resolve_eq_directory_iff.mp htarget).1
  rw [ensureParent, parent?_join_join hne hname hfile]
  dsimp only
  rw [yields_attempt, outcome_ensureDirectories_join htarget hname,
    outcome_ensureDirectory_join htarget hname]
  split_ifs with hroom hdirectory
  · simp [hroom, hdirectory]
  · simp [hdirectory]
  · simp [hroom]

/-! ### The file -/

/-- Storing a file in a directory succeeds where there is room and no directory. -/
theorem outcome_store_iff (world : World) {content : List UInt8} {result : Unit}
    (hp : world.tree.resolve world.here p = .ok (place, .directory)) (hname : IsEntryName name) :
    world.outcome (World.change fun tree here => tree.store here (p.join ⟨name⟩) content) =
        (.ok result, after) ↔
      HasRoom p name ∧ world.tree.find? (place ++ [name]) ≠ some .directory ∧
      { world with tree := world.tree.put (place ++ [name]) (.file content) } = after := by
  rw [World.outcome_change_eq_ok, store_join hp hname]
  split_ifs with hroom hdirectory
  · simp [hdirectory]
  · simp [hroom, hdirectory]
  · simp [hroom]

/-- Makes the output file, as it is done before the text is produced. -/
def openOutput {m : Type → Type} [Monad m] [Host m] (path : Path) : Action m Unit := do
  ensureParent path
  Action.attempt (.io path) (Host.openEmpty path)

/-- Whether a tree can take up a file of some name in a directory of some name, below the directory
that a target leads to. -/
structure Accommodates (tree : FileTree) (here : Location) (target : Path) (name file : List UInt8)
    (place : Location) : Prop where
  /-- The target leads to a directory. -/
  resolves : tree.resolve here target = .ok (place, .directory)
  /-- The directory of the file can be named, -/
  directoryRoom : HasRoom target name
  /-- and the file. -/
  fileRoom : HasRoom (target.join ⟨name⟩) file
  /-- No file is where the directory has to be, -/
  directory : tree.find? (place ++ [name]) = none ∨ tree.find? (place ++ [name]) = some .directory
  /-- and no directory where the file has to be. -/
  file : tree.find? (place ++ [name, file]) ≠ some .directory

/-- What is found once a file was delivered. -/
theorem Accommodates.find?_deliver {tree : FileTree} {here : Location}
    (h : Accommodates tree here target name file place) (content : List UInt8)
    (other : Location) :
    (tree.deliver place name file content).find? other =
      if other = place ++ [name, file] then some (.file content)
      else if other = place ++ [name] then some .directory
      else tree.find? other := by
  rw [FileTree.find?_deliver, getD_directory h.directory]

/-- Opening the output file succeeds just if the tree accommodates it, and leaves an empty file. -/
theorem yields_openOutput_iff (world : World) {result : Unit}
    (htarget : world.tree.resolve world.here target = .ok (place, .directory))
    (hname : IsEntryName name) (hfile : IsEntryName file) :
    Yields (openOutput ((target.join ⟨name⟩).join ⟨file⟩)) world result after ↔
      Accommodates world.tree world.here target name file place ∧
      { world with tree := world.tree.deliver place name file [] } = after := by
  have hlocation : place ++ [name] ++ [file] = place ++ [name, file] := by simp
  have hkept : (world.tree.ensure (place ++ [name])).find? (place ++ [name, file]) =
      world.tree.find? (place ++ [name, file]) := by
    rw [find?_ensure (by simp), if_neg (by simp)]
  unfold openOutput
  simp only [yields_bind, yields_attempt, yields_ensureParent_iff htarget hname hfile]
  constructor
  · rintro ⟨_, between, ⟨hroom, hdirectory, rfl⟩, hopen⟩
    have hpackage := resolve_ensure_join htarget hname hroom hdirectory
    obtain ⟨hfileRoom, hnot, rfl⟩ :=
      (outcome_store_iff { world with tree := world.tree.ensure (place ++ [name]) }
        hpackage hfile).mp hopen
    dsimp only at hnot ⊢
    rw [hlocation] at hnot ⊢
    rw [hkept] at hnot
    exact ⟨⟨htarget, hroom, hfileRoom, hdirectory, hnot⟩, rfl⟩
  · rintro ⟨h, rfl⟩
    refine ⟨(), _, ⟨h.directoryRoom, h.directory, rfl⟩, ?_⟩
    have hpackage := resolve_ensure_join htarget hname h.directoryRoom h.directory
    refine (outcome_store_iff { world with tree := world.tree.ensure (place ++ [name]) }
      hpackage hfile).mpr ⟨h.fileRoom, ?_, ?_⟩
    · rw [hlocation, hkept]
      exact h.file
    · rw [hlocation]
      rfl

/-- A file that was opened takes its content, and is then as if it had been delivered at once. -/
theorem store_deliver {tree : FileTree} {here : Location}
    (h : Accommodates tree here target name file place) (hname : IsEntryName name)
    (hfile : IsEntryName file) (content : List UInt8) :
    (tree.deliver place name file []).store here ((target.join ⟨name⟩).join ⟨file⟩) content =
      .ok (tree.deliver place name file content) := by
  have hgrows : Grows (tree.ensure (place ++ [name])) (tree.deliver place name file []) := by
    refine grows_put_file ?_
    rw [find?_ensure (by simp), if_neg (by simp)]
    exact h.file
  have hpackage := resolve_mono hgrows
    (resolve_ensure_join h.resolves hname h.directoryRoom h.directory)
  have hlocation : place ++ [name] ++ [file] = place ++ [name, file] := by simp
  have hthere : (tree.deliver place name file []).find? (place ++ [name, file]) ≠
      some .directory := by
    rw [h.find?_deliver, if_pos rfl]
    simp
  rw [store_join hpackage hfile, if_pos h.fileRoom, hlocation, if_neg hthere]
  rw [deliver, put_put]
  rfl

end GoEnum.Generation

/-
  Runs of actions on the host in memory.

  `Yields action world result after` says that an action, run in a world, gives a
  result and leaves another world behind, and `Fails action world failure after`
  that it fails and leaves a world behind. Each run does one of both, in one way. A
  sequence yields what its parts yield one after the other, and fails at the first
  part that fails, so a run of a longer action is taken apart with the `iff`s of this
  module, and no later proof opens the monad.
-/
import GoEnum.Action
import GoEnum.Disk.World

namespace GoEnum

namespace Disk

variable {ε α : Type} {world after : World}

/-- What comes of an operation in a world: what it reports, and the world it leaves behind. -/
def World.outcome (world : World) (operation : StateM World (Except ε α)) : Except ε α × World :=
  operation.run world

/-- A second operation starts from what the first one reports and leaves behind. -/
theorem World.outcome_then {δ β : Type} (world : World) (operation : StateM World (Except ε α))
    (next : Except ε α → StateM World (Except δ β)) :
    world.outcome (operation >>= next) =
      (world.outcome operation).2.outcome (next (world.outcome operation).1) :=
  rfl

/-- A change of the tree that succeeds leaves everything else as it is. -/
theorem World.outcome_change_eq_ok {f : FileTree → Location → Except OsError FileTree}
    {result : Unit} :
    world.outcome (World.change f) = (.ok result, after) ↔
      ∃ tree, f world.tree world.here = .ok tree ∧ { world with tree } = after := by
  have hrun : world.outcome (World.change f) = World.change f world := rfl
  rw [hrun]
  unfold World.change
  cases f world.tree world.here <;> simp

/-- What is found at the path of an entry. -/
def Entry.asPlace : Entry → Place
  | .directory => .directory
  | .file _ => .file

theorem World.outcome_place (p : Path) :
    world.outcome (Host.place p) =
      ((world.tree.resolve world.here p).map fun found => found.2.asPlace, world) := by
  change ((world.tree.resolve world.here p).map _, world) = _
  rcases world.tree.resolve world.here p with cause | ⟨location, _ | content⟩ <;> rfl

/-- Whether a world has the disk of another one, so that at most the log has changed. -/
structure World.SameDisk (world after : World) : Prop where
  /-- Nothing in the tree has changed, -/
  tree : after.tree = world.tree
  /-- nor has the working directory. -/
  here : after.here = world.here

end Disk

open Disk

variable {α β : Type} {world after : World}

/-- A sequence stops at a failure, and else goes on with the result. -/
theorem Disk.World.outcome_bind {action : Action (StateM World) α}
    {next : α → Action (StateM World) β} :
    world.outcome (action >>= next).run =
      match world.outcome action.run with
      | (.ok a, between) => between.outcome (next a).run
      | (.error failure, between) => (.error failure, between) := by
  unfold World.outcome
  rw [ExceptT.run_bind, StateT.run_bind]
  generalize action.run.run world = ran
  obtain ⟨outcome, between⟩ := ran
  cases outcome <;> rfl

/-! ### Runs that give a result -/

/-- Whether an action, run in a world, gives a result and leaves a world behind. -/
def Yields (action : Action (StateM World) α) (world : World) (result : α) (after : World) : Prop :=
  world.outcome action.run = (.ok result, after)

@[simp] theorem yields_pure {a result : α} :
    Yields (pure a) world result after ↔ a = result ∧ world = after := by
  change (Except.ok a, world) = (Except.ok result, after) ↔ _
  simp

@[simp] theorem not_yields_throw {result : α} (failure : Failure) :
    ¬Yields (throw failure) world result after := by
  change (Except.error failure, world) ≠ (Except.ok result, after)
  simp

/-- A sequence yields what its second part yields after the first. -/
theorem yields_bind {action : Action (StateM World) α} {next : α → Action (StateM World) β}
    {result : β} :
    Yields (action >>= next) world result after ↔
      ∃ a between, Yields action world a between ∧ Yields (next a) between result after := by
  unfold Yields
  rw [World.outcome_bind]
  rcases world.outcome action.run with ⟨outcome, between⟩
  cases outcome with
  | error failure => simp
  | ok a =>
    constructor
    · exact fun h => ⟨a, between, rfl, h⟩
    · rintro ⟨b, other, heq, h⟩
      obtain ⟨rfl, rfl⟩ : a = b ∧ between = other := by simpa using heq
      exact h

/-- An attempt yields what its operation reports. -/
theorem yields_attempt {ε : Type} {blame : ε → Failure} {operation : StateM World (Except ε α)}
    {result : α} :
    Yields (Action.attempt blame operation) world result after ↔
      world.outcome operation = (.ok result, after) := by
  change ((world.outcome operation).1.mapError blame, (world.outcome operation).2) = _ ↔ _
  rcases world.outcome operation with ⟨outcome, between⟩
  cases outcome with
  | error cause =>
    change (Except.error (blame cause), between) = (Except.ok result, after) ↔ _
    simp
  | ok a =>
    change (Except.ok a, between) = (Except.ok result, after) ↔ _
    simp

/-- A note adds an event and changes nothing else. -/
@[simp] theorem yields_note {level : Log.Level} {part : Log.Part} {message : String}
    {result : Unit} :
    Yields (Action.note level part message) world result after ↔
      { world with events := world.events ++ [⟨level, part, message⟩] } = after := by
  change (Except.ok (), { world with events := world.events ++ [⟨level, part, message⟩] })
    = (Except.ok (), after) ↔ _
  simp

theorem yields_ofExcept {outcome : Except Failure α} {result : α} :
    Yields (Action.ofExcept outcome) world result after ↔
      outcome = .ok result ∧ world = after := by
  change (outcome, world) = (.ok result, after) ↔ _
  simp

/-- A run gives one result. -/
theorem Yields.unique {action : Action (StateM World) α} {a b : α} {other : World}
    (h : Yields action world a after) (h' : Yields action world b other) :
    a = b ∧ after = other := by
  have heq := h.symm.trans h'
  simpa using heq

/-! ### Runs that fail -/

/-- Whether an action, run in a world, fails and leaves a world behind. -/
def Fails (action : Action (StateM World) α) (world : World) (failure : Failure) (after : World) :
    Prop :=
  world.outcome action.run = (.error failure, after)

variable {failure : Failure}

/-- A run that gives a result does not fail. -/
theorem Yields.not_fails {action : Action (StateM World) α} {a : α} {other : World}
    (h : Yields action world a after) : ¬Fails action world failure other := by
  intro h'
  have heq := h.symm.trans h'
  simp at heq

/-- A run gives a result or fails. -/
theorem yields_or_fails (action : Action (StateM World) α) (world : World) :
    (∃ a after, Yields action world a after) ∨
      ∃ failure after, Fails action world failure after := by
  rcases hrun : world.outcome action.run with ⟨outcome, after⟩
  cases outcome with
  | ok a => exact Or.inl ⟨a, after, hrun⟩
  | error failure => exact Or.inr ⟨failure, after, hrun⟩

@[simp] theorem not_fails_pure {a : α} : ¬Fails (pure a) world failure after := by
  change (Except.ok a, world) ≠ (Except.error failure, after)
  simp

@[simp] theorem fails_throw {cause : Failure} :
    Fails (throw cause : Action (StateM World) α) world failure after ↔
      cause = failure ∧ world = after := by
  change (Except.error cause, world) = (Except.error failure, after) ↔ _
  simp

/-- A sequence fails where its first part does, or where its second part does after the first. -/
theorem fails_bind {action : Action (StateM World) α} {next : α → Action (StateM World) β} :
    Fails (action >>= next) world failure after ↔
      Fails action world failure after ∨
        ∃ a between, Yields action world a between ∧ Fails (next a) between failure after := by
  unfold Fails Yields
  rw [World.outcome_bind]
  rcases world.outcome action.run with ⟨outcome, between⟩
  cases outcome with
  | error cause => simp
  | ok a =>
    constructor
    · exact fun h => Or.inr ⟨a, between, rfl, h⟩
    · rintro (h | ⟨b, other, heq, h⟩)
      · simp at h
      · obtain ⟨rfl, rfl⟩ : a = b ∧ between = other := by simpa using heq
        exact h

/-- An attempt fails with what is made of the error that its operation reports. -/
theorem fails_attempt {ε : Type} {blame : ε → Failure} {operation : StateM World (Except ε α)} :
    Fails (Action.attempt blame operation) world failure after ↔
      ∃ cause, world.outcome operation = (.error cause, after) ∧ blame cause = failure := by
  change ((world.outcome operation).1.mapError blame, (world.outcome operation).2) = _ ↔ _
  rcases world.outcome operation with ⟨outcome, between⟩
  cases outcome with
  | error cause =>
    change (Except.error (blame cause), between) = (Except.error failure, after) ↔ _
    simp only [Prod.mk.injEq, Except.error.injEq]
    constructor
    · rintro ⟨hcause, hafter⟩
      exact ⟨cause, ⟨rfl, hafter⟩, hcause⟩
    · rintro ⟨_, ⟨rfl, hafter⟩, hcause⟩
      exact ⟨hcause, hafter⟩
  | ok a =>
    change (Except.ok a, between) = (Except.error failure, after) ↔ _
    simp

@[simp] theorem not_fails_note {level : Log.Level} {part : Log.Part} {message : String} :
    ¬Fails (Action.note level part message) world failure after := by
  change (Except.ok (), _) ≠ (Except.error failure, after)
  simp

theorem fails_ofExcept {outcome : Except Failure α} :
    Fails (Action.ofExcept outcome) world failure after ↔
      outcome = .error failure ∧ world = after := by
  change (outcome, world) = (.error failure, after) ↔ _
  simp

end GoEnum

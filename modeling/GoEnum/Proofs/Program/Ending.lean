/-
  How a run of the program ends.

  Once the command line is read, a run does what the options say and reports how that
  went: with status 0 if it succeeded, and else with the status of the failure and a
  line of the log that tells its message (`reports_of_yields`, `reports_of_fails`). The
  positional arguments are checked before anything else is done. So if they are
  refused, neither the disk nor any option has a say in how the run ends
  (`usageErrors_agree`).
-/
import GoEnum.Program
import GoEnum.Proofs.Generation.Delivery
import GoEnum.Proofs.Request

namespace GoEnum.Program

open CommandLine Disk

variable {arguments : List Path} {options : Options} {world after : World} {failure : Failure}
  {report : Report}

/-- Whether a run of the program in a world ends with a report and leaves a world behind. -/
def Reports (arguments : List Path) (world : World) (report : Report) (after : World) : Prop :=
  (run arguments : StateM World Report).run world = (report, after)

/-- A run ends in one way. -/
theorem Reports.unique {other : Report} {elsewhere : World}
    (h : Reports arguments world report after) (h' : Reports arguments world other elsewhere) :
    report = other ∧ after = elsewhere :=
  Prod.mk.inj (h.symm.trans h')

/-- The event that tells of a failure. -/
def failureEvent (failure : Failure) : Log.Event :=
  ⟨.error, .program, "Generation failed: " ++ failure.message⟩

/-! ### From the options to the report -/

/-- A run does what the options say, and reports on it. -/
theorem run_eq (hread : CommandLine.read arguments = .ok options) (world : World) :
    (run arguments : StateM World Report).run world =
      match world.outcome (execute options arguments).run with
      | (.ok (), after) => ({ status := 0 }, after)
      | (.error failure, after) => (reportFailure failure : StateM World Report).run after := by
  unfold run World.outcome
  rw [hread]
  dsimp only
  rw [StateT.run_bind]
  generalize (execute options arguments : Action (StateM World) Unit).run.run world = ran
  obtain ⟨_ | _, after⟩ := ran <;> rfl

theorem reports_of_yields (hread : CommandLine.read arguments = .ok options)
    (h : Yields (execute options arguments) world () after) :
    Reports arguments world { status := 0 } after := by
  rw [Reports, run_eq hread, h]

/-- A failure other than a constant that is too long to be padded is logged. -/
theorem reports_of_fails (hread : CommandLine.read arguments = .ok options)
    (h : Fails (execute options arguments) world failure after)
    (hfailure : failure ≠ .fieldTooWide) :
    Reports arguments world { status := failure.exitStatus }
      { after with events := after.events ++ [failureEvent failure] } := by
  rw [Reports, run_eq hread, h]
  cases failure with
  | fieldTooWide => exact absurd rfl hfailure
  | _ => rfl

theorem reports_of_fieldTooWide (hread : CommandLine.read arguments = .ok options)
    (h : Fails (execute options arguments) world .fieldTooWide after) :
    Reports arguments world
      { status := Failure.fieldTooWide.exitStatus,
        complaint := some Failure.fieldTooWide.message } after := by
  rw [Reports, run_eq hread, h]
  rfl

/-! ### Arguments that are refused -/

/-- Arguments that make no request end the run at once. -/
theorem fails_execute_of_refused {target : Path} {acceptEmpty : Bool} {cause : RequestError}
    (h : Request.ofArguments target acceptEmpty options.words = .error cause) (world : World) :
    Fails (execute options arguments) world (.usage cause.message) world :=
  fails_bind.mpr (Or.inl (Generation.fails_makeRequest_iff.mpr
    ⟨cause, Request.ofArguments_eq_error h _ _, rfl, rfl⟩))

/-- How a run ends whose arguments make no sense. -/
structure EndsInUsage (arguments : List Path) (options : Options) (world : World)
    (message : String) : Prop where
  /-- It fails with the message and changes nothing. -/
  fails : Fails (execute options arguments) world (.usage message) world
  /-- Its status is 2, and the only thing that it leaves behind is the line of the log. -/
  reports : Reports arguments world { status := 2 }
    { world with events := world.events ++ [failureEvent (.usage message)] }
  /-- The line is shown, whatever part of the log is asked for. -/
  diagnostics : diagnostics arguments [failureEvent (.usage message)] { status := 2 } =
    [(failureEvent (.usage message)).line]

theorem endsInUsage_of_refused {target : Path} {acceptEmpty : Bool} {cause : RequestError}
    (hread : CommandLine.read arguments = .ok options)
    (h : Request.ofArguments target acceptEmpty options.words = .error cause) (world : World) :
    EndsInUsage arguments options world cause.message := by
  have hfails : Fails (execute options arguments) world (.usage cause.message) world :=
    fails_execute_of_refused h world
  refine ⟨hfails, reports_of_fails hread hfails (by simp), ?_⟩
  -- An error is the most important event there is, so it is within every threshold.
  have hshown : (failureEvent (.usage cause.message)).isShown (threshold arguments) = true := by
    simp [Log.Event.isShown, failureEvent, Log.Level.rank]
  simp [diagnostics, hshown]

/-- If positional arguments are refused, all runs with them end with the same message, whatever
else the command line says and whatever the disk holds, and none changes its disk. -/
theorem usageErrors_agree {first second : List Path} {other : Options} {target : Path}
    {acceptEmpty : Bool} {cause : RequestError}
    (hfirst : CommandLine.read first = .ok options)
    (hsecond : CommandLine.read second = .ok other) (hwords : other.words = options.words)
    (hrefused : Request.ofArguments target acceptEmpty options.words = .error cause)
    (world elsewhere : World) :
    ∃ message, EndsInUsage first options world message ∧
      EndsInUsage second other elsewhere message :=
  ⟨cause.message, endsInUsage_of_refused hfirst hrefused world,
    endsInUsage_of_refused hsecond (hwords ▸ hrefused) elsewhere⟩

/-- Two values with the same constant: once with a settings file that is missing and a directory
that is missing, once without any option. -/
theorem usageErrors_agree_color : ∃ first second options other message,
    CommandLine.read first = .ok options ∧ CommandLine.read second = .ok other ∧
    options = ⟨0, true, some (.ofText "none.json"), some (.ofText "out"),
      ["string", "Color", "red", "Red"]⟩ ∧
    other = { words := ["string", "Color", "red", "Red"] } ∧
    EndsInUsage first options World.fresh message ∧
    EndsInUsage second other ⟨⟨[([Text.Utf8.encode "out"], .directory)]⟩, [], []⟩ message := by
  have hfirst : CommandLine.read (["-c", "none.json", "--dir=out", "--empty", "string",
      "Color", "red", "Red"].map Path.ofText) = .ok ⟨0, true, some (.ofText "none.json"),
        some (.ofText "out"), ["string", "Color", "red", "Red"]⟩ := by decide
  have hsecond : CommandLine.read (["string", "Color", "red", "Red"].map Path.ofText) =
      .ok { words := ["string", "Color", "red", "Red"] } := by decide
  obtain ⟨cause, hrefused⟩ : ∃ cause, Request.ofArguments (.ofText ".") false
      ["string", "Color", "red", "Red"] = .error cause := ⟨_, rfl⟩
  obtain ⟨message, hruns⟩ := usageErrors_agree hfirst hsecond rfl hrefused World.fresh
    ⟨⟨[([Text.Utf8.encode "out"], .directory)]⟩, [], []⟩
  exact ⟨_, _, _, _, message, hfirst, hsecond, rfl, rfl, hruns.1, hruns.2⟩

end GoEnum.Program

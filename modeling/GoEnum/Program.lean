/-
  The program: from the arguments of a process to its effects and its exit status.

  The arguments are read first, then the request is made, then the settings are
  loaded, and only then is the disk written to. So a fault in the request is
  reported alike whatever the disk and the settings hold.
-/
import GoEnum.CommandLine.Help
import GoEnum.CommandLine.Options
import GoEnum.Generation.Run

namespace GoEnum.Program

variable {m : Type → Type} [Monad m] [Host m]

/-- What a process prints itself, apart from the log, and how it ends. -/
structure Report where
  /-- The exit status. -/
  status : Nat
  /-- The text on standard output. -/
  output : String := ""
  /-- The line on standard error that tells why the arguments or the run were refused, where the
  log does not. -/
  complaint : Option String := none
deriving Repr, DecidableEq

/-- The settings of a run. -/
def settings : Option Path → Action m Settings
  | some path => Settings.load path
  | none => return {}

/-- Does what the options say; `arguments` are all arguments of the process. -/
def execute (options : CommandLine.Options) (arguments : List Path) : Action m Unit := do
  let request ← Generation.makeRequest options.directory options.empty options.words
  let settings ← settings options.config
  let output ← Generation.generate settings request (arguments.map Path.shown)
  Action.note .info .program ("Generation completed: " ++ output.shown)

/-- The report on a run that ended with a failure. -/
def reportFailure : Failure → m Report
  | .fieldTooWide =>
    return { status := Failure.fieldTooWide.exitStatus
             complaint := some Failure.fieldTooWide.message }
  | failure => do
    Host.log ⟨.error, .program, "Generation failed: " ++ failure.message⟩
    return { status := failure.exitStatus }

/-- Runs the program with the arguments of a process. -/
def run (arguments : List Path) : m Report :=
  match CommandLine.read arguments with
  | .error .help => return { status := 0, output := CommandLine.helpText }
  | .error .version => return { status := 0, output := CommandLine.versionText }
  | .error (.fault cause) => return { status := 2, complaint := some cause.message }
  | .ok options => do
    match ← (execute options arguments).run with
    | .ok () => return { status := 0 }
    | .error failure => reportFailure failure

/-- The least important level of the log that is shown for the arguments of a process. -/
def threshold (arguments : List Path) : Log.Level :=
  match CommandLine.read arguments with
  | .ok options => Log.Level.ofVerbosity options.verbosity
  | .error _ => Log.Level.ofVerbosity 0

/-- What a process writes to standard error: the log as far as it is shown, and the complaint. -/
def diagnostics (arguments : List Path) (events : List Log.Event) (report : Report) :
    List String :=
  (events.filter (·.isShown (threshold arguments))).map (·.line) ++ report.complaint.toList

end GoEnum.Program

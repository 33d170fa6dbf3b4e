/-
  Generating the file of a request.

  The target directory must exist. The text is that of the request, stamped with
  a command line that starts with the configured name of the program; the empty
  text is accepted if the request or the settings say so.
-/
import GoEnum.Generation.Output
import GoEnum.Request
import GoEnum.Settings.File
import GoEnum.Shell.Word
import GoEnum.Source.Rendering

namespace GoEnum.Generation

variable {m : Type → Type} [Monad m] [Host m]

/-- The request that positional arguments make. It is logged. -/
def makeRequest (target : Path) (acceptEmpty : Bool) (arguments : List String) :
    Action m Request :=
  match Request.ofArguments target acceptEmpty arguments with
  | .error cause => throw (.usage cause.message)
  | .ok request => do
    Action.note .debug .request request.shown
    return request

/-- The failure that reports why nothing can be found out about a path. -/
def inaccessible (target : Path) (cause : OsError) : Failure :=
  .configuration ("cannot access " ++ target.shown ++ ": " ++ cause.message)

/-- Fails unless there is a directory at the path. -/
def validateTarget (target : Path) : Action m Unit := do
  match ← Action.attempt (inaccessible target) (Host.place target) with
  | .file => throw (.configuration (target.shown ++ " is not a directory"))
  | .directory => return ()

/-- The text of a listing. -/
def renderListing (listing : Listing) : Action m String := do
  Action.note .trace .rendering
    ("Rendering " ++ listing.enumeration.kind.label ++ " enum " ++ listing.enumeration.name)
  match listing.render? with
  | some text => return text
  | none => throw .fieldTooWide

/-- What the generated text of a request depends on, with the settings and the recorded arguments
taken into account. -/
def listingOf (settings : Settings) (request : Request) (arguments : List String) : Listing :=
  let listing := request.listing (Shell.commandLine settings.programName arguments)
  { listing with acceptEmpty := listing.acceptEmpty || settings.acceptEmpty }

/-- Generates the file of a request and gives its path. The recorded arguments are those of the
whole program. -/
def generate (settings : Settings) (request : Request) (arguments : List String) :
    Action m Path := do
  validateTarget request.target
  let listing := listingOf settings request arguments
  let enumeration := request.enumeration
  Action.note .info .generation
    ("Generating " ++ enumeration.kind.label ++ " enum " ++ enumeration.name ++ " with "
      ++ toString enumeration.values.length ++ " values")
  writeGenerated request.outputFile (renderListing listing)
  Action.note .info .generation ("Wrote " ++ request.outputFile.shown)
  return request.outputFile

end GoEnum.Generation

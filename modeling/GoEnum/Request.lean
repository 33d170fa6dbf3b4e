/-
  A request: what to generate, and below which directory.

  It is made of the directory, the flag for the empty text, and the positional
  arguments: a kind, a name and at least one value. The arguments are checked
  when the request is made; the disk is not looked at.
-/
import GoEnum.Disk.Path
import GoEnum.Enumeration
import GoEnum.Naming

namespace GoEnum

/-- A checked request for one enumeration. -/
structure Request where
  /-- The directory below which the file is put. -/
  target : Path
  /-- Whether the empty text is read as the zero value. -/
  acceptEmpty : Bool
  /-- What is generated. -/
  enumeration : Enumeration
deriving Repr, DecidableEq

/-- Why positional arguments make no request. -/
inductive RequestError where
  /-- There are only `count` arguments. -/
  | tooFew (count : Nat)
  /-- The first argument is no kind. -/
  | kind (cause : KindError)
  /-- The name and the values cannot be used together. -/
  | names (cause : Naming.Conflict)
deriving Repr, DecidableEq

/-- The text that reports the error. -/
def RequestError.message : RequestError → String
  | .tooFew count =>
    "expected <KIND> <ENUM_NAME> <VALUE>..., got " ++ toString count ++ " argument(s)"
  | .kind cause => cause.message
  | .names cause => cause.message

namespace Request

/-- The request that positional arguments make. -/
def ofArguments (target : Path) (acceptEmpty : Bool) : List String → Except RequestError Request
  | token :: name :: value :: values =>
    match Kind.parse token with
    | .error cause => .error (.kind cause)
    | .ok kind =>
      match Naming.check name kind (value :: values) with
      | .error cause => .error (.names cause)
      | .ok () => .ok ⟨target, acceptEmpty, ⟨kind, name, value :: values⟩⟩
  | arguments => .error (.tooFew arguments.length)

/-- The name of the package. -/
def packageName (request : Request) : String :=
  Naming.packageName request.enumeration.name

/-- The directory that the file is put in. -/
def outputDirectory (request : Request) : Path :=
  request.target.join (Path.ofText request.packageName)

/-- The file that is generated. -/
def outputFile (request : Request) : Path :=
  request.outputDirectory.join (Path.ofText (Naming.fileName request.enumeration.name))

/-- What the generated text depends on, for a command line. -/
def listing (request : Request) (commandLine : String) : Listing :=
  ⟨commandLine, request.enumeration, request.acceptEmpty⟩

/-- A kind as the log shows it. -/
def showKind : Kind → String
  | .string => "String"
  | .int none => "Int \x7b backing: None \x7d"
  | .int (some backing) => "Int \x7b backing: Some(" ++ Text.quoted backing ++ ") \x7d"

/-- The request as the log shows it. -/
def shown (request : Request) : String :=
  "Invocation \x7b target_dir: " ++ request.target.quoted
    ++ ", allow_empty: " ++ toString request.acceptEmpty
    ++ ", kind: " ++ showKind request.enumeration.kind
    ++ ", enum_name: " ++ Text.quoted request.enumeration.name
    ++ ", values: [" ++ ", ".intercalate (request.enumeration.values.map Text.quoted) ++ "] \x7d"

end Request

end GoEnum

/-
  The grammar of the command line.

  Options and positional arguments mix freely until `--`, after which everything
  is positional. A switch takes no value; a setting takes one, either attached or
  as the next argument. Short options combine into clusters.

  The value of a setting and a run of positional arguments stay *pending* while
  they may still grow, and are only checked when the next known option, an
  argument of the other sort or the end settles them. An argument that no option
  matches is reported at once, so it wins over a fault that is still pending.
-/
import GoEnum.Disk.Path
import GoEnum.Text.Control

namespace GoEnum.CommandLine

/-- An option without a value. -/
inductive Switch where
  | verbose
  | empty
  | help
  | version
deriving Repr, DecidableEq

/-- An option with a value. -/
inductive Setting where
  /-- The file with the settings of the project. -/
  | config
  /-- The directory below which the file is put. -/
  | dir
deriving Repr, DecidableEq

/-- An option. -/
inductive Opt where
  | switch (s : Switch)
  | setting (s : Setting)
deriving Repr, DecidableEq

/-- The long names of the options. -/
def longNames : List (String × Opt) :=
  [("verbose", .switch .verbose), ("config", .setting .config), ("empty", .switch .empty),
   ("dir", .setting .dir), ("help", .switch .help), ("version", .switch .version)]

/-- The short names of the options. -/
def shortNames : List (Char × Opt) :=
  [('v', .switch .verbose), ('c', .setting .config), ('h', .switch .help),
   ('V', .switch .version)]

/-- A switch as messages name it. -/
def Switch.label : Switch → String
  | .verbose => "--verbose..."
  | .empty => "--empty"
  | .help => "--help"
  | .version => "--version"

/-- A setting as messages name it. -/
def Setting.label : Setting → String
  | .config => "--config <FILE>"
  | .dir => "--dir <PATH>"

/-- What is wrong with a command line. -/
inductive Fault where
  /-- No option matches an argument. -/
  | unexpectedArgument (argument : String)
  /-- A value is attached to a switch. -/
  | unexpectedValue (value : String) (switch : Switch)
  /-- An option that can be given once is given again. -/
  | repeated (label : String)
  /-- A setting has no value, or an empty one. -/
  | missingValue (setting : Setting)
  /-- A positional argument is no text. -/
  | notUtf8
deriving Repr, DecidableEq

/-- The line that reports the fault. What it quotes from the command line is shown without what
would control a terminal. -/
def Fault.message : Fault → String
  | .unexpectedArgument argument =>
    "error: unexpected argument '" ++ Text.withoutControls argument ++ "' found"
  | .unexpectedValue value switch =>
    "error: unexpected value '" ++ Text.withoutControls value ++ "' for '" ++ switch.label
      ++ "' found; no more were expected"
  | .repeated label => "error: the argument '" ++ label ++ "' cannot be used multiple times"
  | .missingValue setting =>
    "error: a value is required for '" ++ setting.label ++ "' but none was supplied"
  | .notUtf8 => "error: invalid UTF-8 was detected in one or more arguments"

/-- Why the reading of a command line stops before its end. -/
inductive Stop where
  | help
  | version
  | fault (cause : Fault)
deriving Repr, DecidableEq

/-- What may still grow. -/
inductive Pending where
  /-- Nothing. -/
  | nothing
  /-- A setting, with its value if it has come. -/
  | setting (s : Setting) (value : Option Path)
  /-- Positional arguments, the last one first. -/
  | words (reversed : List Path)
deriving Repr, DecidableEq

/-- What a command line says. -/
structure Options where
  /-- How many times more of the log is asked for. -/
  verbosity : Nat := 0
  /-- Whether the empty text is accepted. -/
  empty : Bool := false
  /-- The file with the settings of the project, if there is one. -/
  config : Option Path := none
  /-- The directory below which the file is put, if one is named. -/
  dir : Option Path := none
  /-- The positional arguments. -/
  words : List String := []
deriving Repr, DecidableEq

/-- The directory below which the file is put. -/
def Options.directory (options : Options) : Path :=
  options.dir.getD (Path.ofText ".")

/-- How far a command line has been read. -/
structure Progress where
  /-- What has been settled. -/
  options : Options := {}
  /-- What may still grow. -/
  pending : Pending := .nothing
  /-- Whether `--` has come. -/
  trailing : Bool := false
deriving Repr, DecidableEq

/-- Reading an argument. -/
abbrev Reading := Except Stop

/-- Stops with a fault. -/
def refuse {α : Type} (cause : Fault) : Reading α :=
  .error (.fault cause)

/-- The value that a setting has so far. -/
def Options.value? (options : Options) : Setting → Option Path
  | .config => options.config
  | .dir => options.dir

/-- The options with a value for a setting. -/
def Options.withValue (options : Options) (value : Path) : Setting → Options
  | .config => { options with config := some value }
  | .dir => { options with dir := some value }

/-- Gives a setting its value. It must not have one, and the value must not be empty. -/
def Options.assign (options : Options) (setting : Setting) (value : Path) : Reading Options :=
  if (options.value? setting).isSome then refuse (.repeated setting.label)
  else if value.bytes = [] then refuse (.missingValue setting)
  else .ok (options.withValue value setting)

/-- The texts of positional arguments. -/
def texts (words : List Path) : Reading (List String) :=
  match words.mapM fun word => Text.Utf8.decode? word.bytes with
  | some texts => .ok texts
  | none => refuse .notUtf8

/-- Checks and takes over what is pending. -/
def Progress.settle (progress : Progress) : Reading Options :=
  match progress.pending with
  | .nothing => .ok progress.options
  | .setting s none => refuse (.missingValue s)
  | .setting s (some value) => progress.options.assign s value
  | .words reversed => do
    let texts ← texts reversed.reverse
    .ok { progress.options with words := progress.options.words ++ texts }

/-- Reads a switch. -/
def Progress.switch (progress : Progress) (s : Switch) : Reading Progress := do
  let options ← progress.settle
  match s with
  | .verbose => .ok { options := { options with verbosity := options.verbosity + 1 } }
  | .empty =>
    if options.empty then refuse (.repeated s.label)
    else .ok { options := { options with empty := true } }
  | .help => .error .help
  | .version => .error .version

/-- Reads a setting, with its value if one is attached. -/
def Progress.setting (progress : Progress) (s : Setting) (value : Option Path) :
    Reading Progress := do
  let options ← progress.settle
  match value with
  | some value => .ok { options := ← options.assign s value }
  | none => .ok { options, pending := .setting s none }

/-- Reads a positional argument. -/
def Progress.word (progress : Progress) (word : Path) : Reading Progress :=
  match progress.pending with
  | .words reversed => .ok { progress with pending := .words (word :: reversed) }
  | _ => do
    let options ← progress.settle
    .ok { progress with options, pending := .words [word] }

/-- The byte of an equals sign. -/
def equalsSign : UInt8 := 0x3D

/-- The byte of a dash. -/
@[match_pattern] def dash : UInt8 := 0x2D

/-- Reads a long option, from after its dashes on. -/
def Progress.long (progress : Progress) (bytes : List UInt8) : Reading Progress :=
  let name := bytes.takeWhile (· != equalsSign)
  let value := (bytes.dropWhile (· != equalsSign)).tail?.map Path.mk
  match (Text.Utf8.decode? name).bind (longNames.lookup ·), value with
  | some (.setting s), value => progress.setting s value
  | some (.switch s), none => progress.switch s
  | some (.switch s), some value => refuse (.unexpectedValue value.shown s)
  | none, _ => refuse (.unexpectedArgument ("--" ++ Text.Utf8.decodeLossy name))

/-- What a cluster of short options is reported by where none matches: its first character, or
all of the rest if that starts with no character. -/
def unmatched (bytes : List UInt8) : String :=
  match Text.Utf8.pieces bytes with
  | .char c :: _ => String.ofList ['-', c]
  | _ => "-" ++ Text.Utf8.decodeLossy bytes

/-- The value that is attached to a short option by what follows it in its cluster. -/
def attached (bytes : List UInt8) : Option Path :=
  match bytes with
  | [] => none
  | b :: rest => some ⟨if b = equalsSign then rest else b :: rest⟩

/-- Reads a cluster of short options, from after its dash on. -/
def Progress.cluster (progress : Progress) : List UInt8 → Reading Progress
  | [] => .ok progress
  | b :: rest =>
    match shortNames.lookup (Char.ofUInt8 b) with
    | some (.switch s) => do (← progress.switch s).cluster rest
    | some (.setting s) => progress.setting s (attached rest)
    | none => refuse (.unexpectedArgument (unmatched (b :: rest)))

/-- Reads one argument. -/
def Progress.argument (progress : Progress) (argument : Path) : Reading Progress :=
  if progress.trailing then progress.word argument
  else match argument.bytes with
    | [dash, dash] => .ok { progress with trailing := true }
    | dash :: dash :: bytes => progress.long bytes
    | dash :: b :: bytes => progress.cluster (b :: bytes)
    | _ =>
      match progress.pending with
      | .setting s none => .ok { progress with pending := .setting s (some argument) }
      | _ => progress.word argument

/-- What a command line says. -/
def read (arguments : List Path) : Reading Options := do
  (← arguments.foldlM Progress.argument {}).settle

end GoEnum.CommandLine

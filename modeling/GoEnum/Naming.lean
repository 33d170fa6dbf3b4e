/-
  The names that a generated file declares, all derived from the enumeration's
  name and its values.

  The first part derives them one by one. The second part is the check that a
  name and its values can be used together: the name must serve as a type and, in
  small letters, as a package; each value must give a constant; and no two of the
  package-level names may coincide.
-/
import GoEnum.Lexeme.Identifier
import GoEnum.Kind
import GoEnum.Text.LetterCase

namespace GoEnum.Naming

/-! ### Derived names -/

/-- A name made of two parts. -/
abbrev combine (front back : String) : String :=
  front ++ back

/-- The name of the package, which is also the stem of the file's name. -/
def packageName (name : String) : String :=
  Text.lowercase name

/-- The name of the constant for a value. -/
def constant (value : String) : String :=
  Text.capitalize value

/-- The name of the generated file. -/
def fileName (name : String) : String :=
  packageName name ++ ".gen.go"

/-- The receiver of the methods: the first letter of the name in small form, or `e` if that is
no ASCII letter or would hide the type. A type named `e` gets the receiver `v`. -/
def receiver (name : String) : String :=
  let letter := Text.lowercase (Text.firstChar name)
  match letter.toList with
  | c :: _ => if c.isAlpha && letter != name then letter else fallback
  | [] => fallback
where
  fallback : String := if name = "e" then "v" else "e"

/-- The function that reads a value from a text. -/
def parseFunction (name : String) : String :=
  combine "Parse" name

/-- The function that lists all values. -/
def valuesFunction (name : String) : String :=
  combine name "Values"

/-- The error that reports a text or number which is no value. -/
def invalidError (name : String) : String :=
  combine "ErrInvalid" name

/-- The table of the values' names, in an integer enumeration. -/
def namesTable (name : String) : String :=
  combine (packageName name) "Names"

/-- The method that gives the underlying integer. -/
def backingMethod (backing : String) : String :=
  Text.capitalize backing

/-- The function that converts from the underlying integer. -/
def fromFunction (name backing : String) : String :=
  name ++ "From" ++ backingMethod backing

/-- The package-level names of a generated file, apart from the constants. -/
def declaredNames (name : String) (kind : Kind) : List String :=
  [name, parseFunction name, valuesFunction name, invalidError name] ++
    match kind with
    | .string => []
    | .int none => [namesTable name]
    | .int (some backing) => [namesTable name, fromFunction name backing]

/-! ### The check -/

/-- Why a name and its values cannot be used together. -/
inductive Conflict where
  /-- The name cannot be both a type and, in small letters, a package. -/
  | unusableName (name : String)
  /-- The value's constant is no identifier. -/
  | notIdentifier (value : String)
  /-- The value's constant is already taken. -/
  | taken (value constant : String)
deriving Repr, DecidableEq

/-- The text that reports the conflict. -/
def Conflict.message : Conflict → String
  | .unusableName name =>
    "enum name '" ++ name ++ "' cannot be used as a Go type and package name"
  | .notIdentifier value =>
    "value '" ++ value ++ "' does not form a Go identifier"
  | .taken value constant =>
    "value '" ++ value ++ "' collides with another identifier named " ++ constant

/-- Whether a name can be both a type and, in small letters, a package. -/
def isUsableName (name : String) : Bool :=
  Lexeme.isIdentifier name && !Lexeme.keywords.contains name && !Lexeme.reserved.contains name
    && !Lexeme.keywords.contains (packageName name)

/-- Checks the values one after the other: each constant must be an identifier that is not
`taken` yet, and is taken from then on. -/
def checkValues (taken : List String) : List String → Except Conflict Unit
  | [] => .ok ()
  | value :: values =>
    let name := constant value
    if Lexeme.isIdentifier name then
      if taken.contains name then .error (.taken value name)
      else checkValues (name :: taken) values
    else .error (.notIdentifier value)

/-- Checks that a name and its values can be used together. -/
def check (name : String) (kind : Kind) (values : List String) : Except Conflict Unit :=
  if isUsableName name then checkValues (declaredNames name kind) values
  else .error (.unusableName name)

end GoEnum.Naming

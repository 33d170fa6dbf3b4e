/-
  The sections that the files of both kinds of enumeration share.

  A section is one declaration with the comment before it. What differs between
  the kinds is passed in: how the error's comment says what was read, which verb
  and operand show an invalid value, how a value becomes a text.
-/
import GoEnum.Enumeration
import GoEnum.Lexeme.Literal
import GoEnum.Naming
import GoEnum.Source.Layout

namespace GoEnum.Source

open Naming

/-- The first section: a comment that marks the file as generated and tells by which command. -/
def marker (commandLine : String) : List String :=
  ["// Code generated by " ++ commandLine ++ "; DO NOT EDIT."]

/-- The package clause. -/
def packageClause (name : String) : List String :=
  ["package " ++ packageName name]

/-- The import declaration. -/
def importGroup : List String :=
  group "import" (Lexeme.imports.map Lexeme.literal)

/-- The declaration of the type, whose comment says what backs it. -/
def typeDeclaration (name backedBy underlying : String) : List String :=
  ["// " ++ name ++ " is " ++ backedBy ++ " enumeration.",
   "type " ++ name ++ " " ++ underlying]

/-- The declaration of the error for what is no value; `source` says what it was read from. -/
def errorDeclaration (name source : String) : List String :=
  ["// " ++ invalidError name ++ " is returned when " ++ source ++ " does not name a " ++ name
      ++ " value.",
   "var " ++ invalidError name ++ " = errors.New(\"invalid " ++ name ++ "\")"]

/-- The function that lists all values in declaration order. -/
def valuesDeclaration (name : String) (values : List String) : List String :=
  ("// " ++ valuesFunction name ++ " returns every " ++ name ++ " value in declaration order.")
    :: block ("func " ++ valuesFunction name ++ "() []" ++ name)
        (composite ("return []" ++ name) (values.map constant))

/-- The header of a method: the receiver with its type, then name, parameters and result. -/
def method (name signature : String) : String :=
  "func (" ++ receiver name ++ " " ++ name ++ ") " ++ signature

/-- An early return of `result` where the value is invalid. `subject` is the value. -/
def guardValid (subject result : String) : List String :=
  block ("if !" ++ subject ++ ".IsValid()") ["return " ++ result]

/-- The comment before the function that reads a value. -/
def parseComment (name : String) (acceptEmpty : Bool) : List String :=
  ("// " ++ parseFunction name ++ " converts s into a " ++ name ++ ".")
    :: if acceptEmpty then ["// The empty string is accepted and yields the zero value."] else []

/-- The header of the function that reads a value. -/
def parseHeader (name : String) : String :=
  "func " ++ parseFunction name ++ "(s string) (" ++ name ++ ", error)"

/-- The error value for an invalid operand, shown with a formatting verb. -/
def invalidValue (name verb operand : String) : String :=
  "fmt.Errorf(\"%w: " ++ verb ++ "\", " ++ invalidError name ++ ", " ++ operand ++ ")"

/-- The method that writes a value as text: `shown` is what the error shows of an invalid value
by `verb`, and `text` is the text of a valid one. -/
def marshalDeclaration (name verb shown text : String) : List String :=
  "// MarshalText implements encoding.TextMarshaler."
    :: block (method name "MarshalText() ([]byte, error)")
        (guardValid (receiver name) ("nil, " ++ invalidValue name verb shown)
          ++ ["return []byte(" ++ text ++ "), nil"])

/-- The method that reads a value from text. -/
def unmarshalDeclaration (name : String) : List String :=
  "// UnmarshalText implements encoding.TextUnmarshaler."
    :: block ("func (" ++ receiver name ++ " *" ++ name ++ ") UnmarshalText(text []byte) error")
        (["parsed, err := " ++ parseFunction name ++ "(string(text))"]
          ++ block "if err != nil" ["return err"]
          ++ ["*" ++ receiver name ++ " = parsed", "return nil"])

/-- The comment before the method that tells valid values from others. -/
def validityComment (name : String) : String :=
  "// IsValid reports whether " ++ receiver name ++ " is a declared " ++ name ++ " value."

end GoEnum.Source

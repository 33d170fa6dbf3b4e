/-
  The generated file of an integer enumeration.

  The constants count up from zero, and a table holds their names in the same
  order, so a value is valid when it is below the length of the table. The
  function that reads a value goes through the names one by one. An enumeration
  that names its integer type also gets conversions to and from that type.
-/
import GoEnum.Source.Declarations

namespace GoEnum.Source.IntegerEnum

open Naming

/-- The lines of the const block: the first constant starts the count. -/
def constantLines (name : String) : List String → List String
  | [] => []
  | value :: values => (constant value ++ " " ++ name ++ " = iota") :: values.map constant

/-- The table of names. -/
def tableDeclaration (name : String) (values : List String) : List String :=
  composite ("var " ++ namesTable name ++ " = [...]string") (values.map Lexeme.literal)

/-- The name of the receiver's value in the table. -/
def tableEntry (name : String) : String :=
  namesTable name ++ "[" ++ receiver name ++ "]"

/-- The method that gives the declared name of a value. -/
def stringDeclaration (name : String) : List String :=
  ("// String returns the declared name of " ++ receiver name ++ ".")
    :: block (method name "String() string")
        (guardValid (receiver name)
            ("fmt.Sprintf(\"" ++ name ++ "(%d)\", " ++ receiver name ++ ")")
          ++ ["return " ++ tableEntry name])

/-- The method that tells valid values from others. -/
def validityDeclaration (name : String) : List String :=
  validityComment name
    :: block (method name "IsValid() bool")
        ["return uint64(" ++ receiver name ++ ") < uint64(len(" ++ namesTable name ++ "))"]

/-- The case that reads one value; `more` is a further label. -/
def parseCase (more value : String) : String × List String :=
  (Lexeme.literal value ++ more, ["return " ++ constant value ++ ", nil"])

/-- The cases that read the values. The empty text, if it is accepted, is a further label of the
first case. -/
def parseCases (acceptEmpty : Bool) : List String → List (String × List String)
  | [] => []
  | value :: values =>
    parseCase (if acceptEmpty then ", \"\"" else "") value :: values.map (parseCase "")

/-- The function that reads a value. -/
def parseDeclaration (name : String) (acceptEmpty : Bool) (values : List String) : List String :=
  parseComment name acceptEmpty
    ++ block (parseHeader name)
        (switchOn "s" (parseCases acceptEmpty values)
          ++ ["return 0, " ++ invalidValue name "%q" "s"])

/-- The method that converts to the underlying integer type. -/
def backingDeclaration (name backing : String) : List String :=
  ("// " ++ backingMethod backing ++ " returns the underlying " ++ backing ++ " value of "
      ++ receiver name ++ ".")
    :: block (method name (backingMethod backing ++ "() " ++ backing))
        ["return " ++ backing ++ "(" ++ receiver name ++ ")"]

/-- The function that converts from the underlying integer type. -/
def fromDeclaration (name backing : String) : List String :=
  ("// " ++ fromFunction name backing ++ " converts v into a " ++ name
      ++ ", rejecting undeclared values.")
    :: block ("func " ++ fromFunction name backing ++ "(v " ++ backing ++ ") (" ++ name
          ++ ", error)")
        (["converted := " ++ name ++ "(v)"]
          ++ guardValid "converted" ("0, " ++ invalidValue name "%d" "v")
          ++ ["return converted, nil"])

/-- The sections for the conversions, if the integer type is named. -/
def conversions (name : String) : Option String → List (List String)
  | none => []
  | some backing => [backingDeclaration name backing, fromDeclaration name backing]

/-- The sections of the file. -/
def sections (commandLine name : String) (backing : Option String) (acceptEmpty : Bool)
    (values : List String) : List (List String) :=
  [marker commandLine, packageClause name, importGroup,
   typeDeclaration name "an integer-backed" (Kind.int backing).goType,
   group "const" (constantLines name values),
   tableDeclaration name values,
   errorDeclaration name "a string or number",
   valuesDeclaration name values,
   stringDeclaration name,
   validityDeclaration name,
   parseDeclaration name acceptEmpty values,
   marshalDeclaration name "%d" (receiver name) (tableEntry name),
   unmarshalDeclaration name] ++ conversions name backing

end GoEnum.Source.IntegerEnum

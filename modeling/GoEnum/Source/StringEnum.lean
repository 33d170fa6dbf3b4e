/-
  The generated file of a string enumeration.

  Each constant is assigned its value as a literal, with the type names below one
  another, so the constants are padded to the length of the longest. The switch of
  `IsValid` lists the constants, after the empty literal if the empty text is
  accepted, and everything else rests on that method.
-/
import GoEnum.Source.Declarations
import GoEnum.Text.Padding

namespace GoEnum.Source.StringEnum

open Naming

/-- The number of characters of the longest constant. -/
def constantWidth (values : List String) : Nat :=
  (values.map fun value => (constant value).length).foldl Text.wider 0

/-- The line of the const block for one value; nothing if it cannot be padded to the width. -/
def constantLine? (name : String) (width : Nat) (value : String) : Option String :=
  (Text.padRight? width (constant value)).map
    (· ++ " " ++ name ++ " = " ++ Lexeme.literal value)

/-- The const block; nothing if the constants are too long to be padded. -/
def constantGroup? (name : String) (values : List String) : Option (List String) :=
  (values.mapM (constantLine? name (constantWidth values))).map (group "const")

/-- The method that gives the text of a value. -/
def stringDeclaration (name : String) : List String :=
  ("// String returns the literal value of " ++ receiver name ++ ".")
    :: block (method name "String() string") ["return string(" ++ receiver name ++ ")"]

/-- The labels of the one case of `IsValid`. -/
def validLabels (acceptEmpty : Bool) (values : List String) : String :=
  (if acceptEmpty then "\"\", " else "") ++ ", ".intercalate (values.map constant)

/-- The method that tells valid values from others. -/
def validityDeclaration (name : String) (acceptEmpty : Bool) (values : List String) :
    List String :=
  validityComment name
    :: block (method name "IsValid() bool")
        (switchOn (receiver name) [(validLabels acceptEmpty values, ["return true"])]
          ++ ["return false"])

/-- The function that reads a value. -/
def parseDeclaration (name : String) (acceptEmpty : Bool) : List String :=
  parseComment name acceptEmpty
    ++ block (parseHeader name)
        (["parsed := " ++ name ++ "(s)"]
          ++ guardValid "parsed" ("\"\", " ++ invalidValue name "%q" "s")
          ++ ["return parsed, nil"])

/-- The sections of the file; nothing if the constants are too long to be padded. -/
def sections? (commandLine name : String) (acceptEmpty : Bool) (values : List String) :
    Option (List (List String)) :=
  (constantGroup? name values).map fun constants =>
    [marker commandLine, packageClause name, importGroup,
     typeDeclaration name "a string-backed" "string",
     constants,
     errorDeclaration name "a string",
     valuesDeclaration name values,
     stringDeclaration name,
     validityDeclaration name acceptEmpty values,
     parseDeclaration name acceptEmpty,
     marshalDeclaration name "%q" ("string(" ++ receiver name ++ ")") (receiver name),
     unmarshalDeclaration name]

end GoEnum.Source.StringEnum

/-
  Laying out Go source text.

  A file is a list of sections and a section is a list of lines. `fileLines` puts
  one empty line between two sections, and `fileText` joins the lines. Lines are
  built without their line feeds; what stands between a pair of brackets is
  indented by one tab more than the brackets.
-/

namespace GoEnum.Source

/-- The lines with one tab in front of each. -/
def indent (lines : List String) : List String :=
  lines.map ("\t" ++ ·)

/-- A line that opens a bracket, the indented lines inside, and a line that closes it. -/
def enclosed (opening : String) (body : List String) (closing : String) : List String :=
  opening :: (indent body ++ [closing])

/-- A header with a block of statements in braces. -/
def block (header : String) (body : List String) : List String :=
  enclosed (header ++ " \x7b") body "\x7d"

/-- A composite literal: its type, and its elements in braces, each followed by a comma. -/
def composite (type : String) (elements : List String) : List String :=
  enclosed (type ++ "\x7b") (elements.map (· ++ ",")) "\x7d"

/-- A keyword with a group of declarations in parentheses. -/
def group (keyword : String) (body : List String) : List String :=
  enclosed (keyword ++ " (") body ")"

/-- A switch over a subject. Each case is its labels and the lines that answer it; cases are not
indented, what they hold is. -/
def switchOn (subject : String) (cases : List (String × List String)) : List String :=
  ("switch " ++ subject ++ " \x7b")
    :: (cases.flatMap (fun (labels, body) => ("case " ++ labels ++ ":") :: indent body) ++ ["\x7d"])

/-- The lines of a file: those of its sections, with an empty line between two sections. -/
def fileLines (sections : List (List String)) : List String :=
  [""].intercalate sections

/-- The text of a file, without a line feed at its end. -/
def fileText (sections : List (List String)) : String :=
  "\n".intercalate (fileLines sections)

end GoEnum.Source

/-
  Words of a shell command line.

  `quoteWord` writes a text so that a POSIX shell reads it back as one word. A
  text of plain characters stands as it is. Any other is put between single
  quotes, where every character but the single quote stands for itself. A text
  with a line break is put between `$'` and `'` instead, where breaks have
  escapes, so that a quoted word never spans two lines. `commandLine` joins the
  program's name and its quoted arguments.
-/
import GoEnum.Text.Property.Alphanumeric

namespace GoEnum.Shell

/-- The punctuation that needs no quoting anywhere in a word. -/
def plainPunctuation : List Char :=
  ['-', '_', '.', '/', ':', '=', '+', ',', '@', '%']

/-- Whether a character stands for itself outside quotes. -/
def isPlain (c : Char) : Bool :=
  Text.isAlphanumeric c || plainPunctuation.contains c

/-- Whether a character breaks a line. -/
def isLineBreak (c : Char) : Bool :=
  c == '\n' || c == '\r'

/-- A character as it stands between `$'` and `'`. -/
def escapeInDollarQuotes (c : Char) : List Char :=
  if c = '\\' then ['\\', '\\']
  else if c = '\'' then ['\\', '\'']
  else if c = '\n' then ['\\', 'n']
  else if c = '\r' then ['\\', 'r']
  else [c]

/-- A character as it stands between single quotes: a single quote ends the quoted part, stands
escaped, and begins the next part. -/
def escapeInSingleQuotes (c : Char) : List Char :=
  if c = '\'' then ['\'', '\\', '\'', '\''] else [c]

/-- The characters of a word in their quoted form. -/
def quoteChars (cs : List Char) : List Char :=
  if !cs.isEmpty && cs.all isPlain then cs
  else if cs.any isLineBreak then
    '$' :: '\'' :: (cs.flatMap escapeInDollarQuotes ++ ['\''])
  else
    '\'' :: (cs.flatMap escapeInSingleQuotes ++ ['\''])

/-- A text in the form that a shell reads back as that one word. -/
def quoteWord (s : String) : String :=
  String.ofList (quoteChars s.toList)

/-- A command line: the program's name as it is, then the quoted arguments, with single spaces
between them. -/
def commandLine (program : String) (arguments : List String) : String :=
  " ".intercalate (program :: arguments.map quoteWord)

end GoEnum.Shell

/-
  Interpreted string literals of the Go language.

  A quote and a backslash are escaped, and so are line feeds and tabs; every
  other character stands for itself.
-/

namespace GoEnum.Lexeme

/-- A character as it stands in a literal. -/
def escapeInLiteral (c : Char) : List Char :=
  if c = '"' then ['\\', '"']
  else if c = '\\' then ['\\', '\\']
  else if c = '\n' then ['\\', 'n']
  else if c = '\t' then ['\\', 't']
  else [c]

/-- The characters of the literal for some characters. -/
def literalChars (cs : List Char) : List Char :=
  '"' :: (cs.flatMap escapeInLiteral ++ ['"'])

/-- The literal that denotes a text. -/
def literal (s : String) : String :=
  String.ofList (literalChars s.toList)

end GoEnum.Lexeme

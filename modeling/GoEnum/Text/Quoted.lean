/-
  Texts between double quotes, as messages and log lines show them.

  What would not be visible as itself is written as an escape: the usual short
  ones for tab, line feed, carriage return and the zero character, and the code
  point in braces for everything else that is not `isVisible`.
-/
import GoEnum.Text.Property.Visible

namespace GoEnum.Text

/-- The escape that names a character by its code point in small hexadecimal digits. -/
def codePointEscape (c : Char) : List Char :=
  '\\' :: 'u' :: '\x7b' :: (Nat.toDigits 16 c.toNat ++ ['\x7d'])

/-- A character as it stands between quotes. -/
def escapeChar (c : Char) : List Char :=
  if c = '\x00' then ['\\', '0']
  else if c = '\t' then ['\\', 't']
  else if c = '\r' then ['\\', 'r']
  else if c = '\n' then ['\\', 'n']
  else if c = '\\' ∨ c = '"' then ['\\', c]
  else if isVisible c then [c]
  else codePointEscape c

/-- A text between double quotes. -/
def quoted (s : String) : String :=
  String.ofList ('"' :: (s.toList.flatMap escapeChar ++ ['"']))

end GoEnum.Text

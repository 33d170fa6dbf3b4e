/-
  Identifiers of the Go language, and the words that are taken.

  `isIdentifier` accepts what can be declared and then referred to, so it refuses
  the blank identifier `_`. A `keyword` can never be declared. A `reserved` word
  could be, but is predeclared or names a package that every generated file
  imports, and would be hidden by a declaration of that name.
-/
import GoEnum.Text.Property.Alphanumeric

namespace GoEnum.Lexeme

/-- Whether the characters spell an identifier: an alphabetic character or `_` first, then also
numbers, and not `_` alone. -/
def isIdentifierChars : List Char → Bool
  | [] => false
  | c :: cs =>
    (c == '_' || Text.isAlphabetic c) && !(c == '_' && cs.isEmpty)
      && cs.all fun d => d == '_' || Text.isAlphanumeric d

/-- Whether a text is an identifier that can be referred to. -/
def isIdentifier (s : String) : Bool :=
  isIdentifierChars s.toList

/-- The keywords of the language. -/
def keywords : List String := [
  "break", "case", "chan", "const", "continue", "default", "defer", "else", "fallthrough",
  "for", "func", "go", "goto", "if", "import", "interface", "map", "package", "range",
  "return", "select", "struct", "switch", "type", "var"]

/-- The identifiers that are declared in every package. -/
def predeclared : List String := [
  "any", "append", "bool", "byte", "cap", "clear", "close", "comparable", "complex",
  "complex128", "complex64", "copy", "delete", "error", "false", "float32", "float64", "imag",
  "int", "int16", "int32", "int64", "int8", "iota", "len", "make", "max", "min", "new", "nil",
  "panic", "print", "println", "real", "recover", "rune", "string", "true", "uint", "uint16",
  "uint32", "uint64", "uint8", "uintptr"]

/-- The packages that a generated file imports, in the order of its import list. -/
def imports : List String := ["errors", "fmt"]

/-- The words that no generated declaration may hide. -/
def reserved : List String := predeclared ++ imports

end GoEnum.Lexeme

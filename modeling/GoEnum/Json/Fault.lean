/-
  Faults in JSON text, with their positions.

  A fault has a reason and a place. The place is counted in bytes that the reader
  has asked for so far, which includes one byte that it has looked at but not
  taken. Line and column come from those bytes: lines are counted from one, and
  the column is the number of bytes since the last line feed.
-/
import GoEnum.Text.Quoted

namespace GoEnum.Json

/-- Why a text is not what was to be read. -/
inductive Reason where
  | endInValue
  | endInObject
  | endInList
  | endInString
  /-- Something other than a string where a key must stand. -/
  | keyNotString
  | trailingComma
  /-- Neither a comma nor the end after a member of an object. -/
  | expectedMemberEnd
  /-- Neither a comma nor the end after an element of a list. -/
  | expectedElementEnd
  | expectedColon
  | trailingCharacters
  | expectedValue
  /-- A misspelt `null`, `true` or `false`. -/
  | expectedIdent
  | invalidNumber
  | numberOutOfRange
  | controlCharacter
  | invalidEscape
  /-- A surrogate escape that is not a pair's first one, or not followed by the second one. -/
  | loneSurrogate
  /-- A first surrogate escape with no escape after it. -/
  | unexpectedEscapeEnd
  /-- A string that is not UTF-8. -/
  | invalidUnicode
  | duplicateField (name : String)
  /-- A value of another type than expected. -/
  | wrongType (found expected : String)
deriving Repr, DecidableEq

/-- The text that reports the reason. -/
def Reason.message : Reason → String
  | .endInValue => "EOF while parsing a value"
  | .endInObject => "EOF while parsing an object"
  | .endInList => "EOF while parsing a list"
  | .endInString => "EOF while parsing a string"
  | .keyNotString => "key must be a string"
  | .trailingComma => "trailing comma"
  | .expectedMemberEnd => "expected `,` or `\x7d`"
  | .expectedElementEnd => "expected `,` or `]`"
  | .expectedColon => "expected `:`"
  | .trailingCharacters => "trailing characters"
  | .expectedValue => "expected value"
  | .expectedIdent => "expected ident"
  | .invalidNumber => "invalid number"
  | .numberOutOfRange => "number out of range"
  | .controlCharacter =>
    "control character (\\u0000-\\u001F) found while parsing a string"
  | .invalidEscape => "invalid escape"
  | .loneSurrogate => "lone leading surrogate in hex escape"
  | .unexpectedEscapeEnd => "unexpected end of hex escape"
  | .invalidUnicode => "invalid unicode code point"
  | .duplicateField name => "duplicate field `" ++ name ++ "`"
  | .wrongType found expected => "invalid type: " ++ found ++ ", expected " ++ expected

/-- A fault, and where it was found. -/
structure Fault where
  /-- What is wrong. -/
  reason : Reason
  /-- How many bytes had been asked for. -/
  pulled : Nat
  /-- How many columns before them the fault lies. -/
  back : Nat
deriving Repr, DecidableEq

/-- A place in a text. -/
structure Position where
  /-- The line, counted from one. -/
  line : Nat
  /-- The number of bytes of the line. -/
  column : Nat
deriving Repr, DecidableEq

/-- The place one byte further on. -/
def Position.next (p : Position) (b : UInt8) : Position :=
  if b = 0x0A then ⟨p.line + 1, 0⟩ else ⟨p.line, p.column + 1⟩

/-- The place after some bytes. -/
def Position.after (bytes : List UInt8) : Position :=
  bytes.foldl Position.next ⟨1, 0⟩

/-- The text that reports a fault found in some bytes. -/
def Fault.message (fault : Fault) (bytes : List UInt8) : String :=
  let position := Position.after (bytes.take fault.pulled)
  fault.reason.message ++ " at line " ++ toString position.line ++ " column "
    ++ toString (position.column - fault.back)

end GoEnum.Json

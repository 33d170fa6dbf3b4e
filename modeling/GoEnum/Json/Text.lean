/-
  JSON strings.

  `readString` takes a string whose opening quote has been taken and gives its
  text; `skipString` only takes it. Both refuse control characters and unknown
  escapes. Surrogate escapes must come in pairs for `readString`, which also
  refuses bytes that are not UTF-8 when it reaches the closing quote; `skipString`
  looks at neither.
-/
import GoEnum.Json.Cursor
import GoEnum.Text.Utf8

namespace GoEnum.Json

/-- Takes a byte inside a string. -/
def nextInString : Scan UInt8 := do
  match ← nextByte with
  | none => fail .endInString
  | some b => return b

/-- The value of a hexadecimal digit. -/
def hexDigit? (c : Char) : Option Nat :=
  if '0' ≤ c ∧ c ≤ '9' then some (c.toNat - '0'.toNat)
  else if 'a' ≤ c ∧ c ≤ 'f' then some (c.toNat - 'a'.toNat + 10)
  else if 'A' ≤ c ∧ c ≤ 'F' then some (c.toNat - 'A'.toNat + 10)
  else none

/-- The number spelt by hexadecimal digits, if they all are. -/
def hexNumber? (cs : List Char) : Option Nat :=
  cs.foldlM (fun n c => (hexDigit? c).map (16 * n + ·)) 0

/-- Takes the four hexadecimal digits of an escape. -/
def readHex : Scan Nat := do
  let a ← nextInString
  let b ← nextInString
  let c ← nextInString
  let d ← nextInString
  match hexNumber? (([a, b, c, d] : List UInt8).map Char.ofUInt8) with
  | some n => return n
  | none => fail .invalidEscape

/-- Whether a code is the first one of a surrogate pair. -/
def isHighSurrogate (n : Nat) : Bool :=
  0xD800 ≤ n && n ≤ 0xDBFF

/-- Whether a code is the second one of a surrogate pair. -/
def isLowSurrogate (n : Nat) : Bool :=
  0xDC00 ≤ n && n ≤ 0xDFFF

/-- Takes a character that must follow a first surrogate. -/
def nextOfPair (expected : Char) : Scan Unit := do
  let b ← nextInString
  if Char.ofUInt8 b = expected then return () else fail .unexpectedEscapeEnd

/-- Takes the rest of an escape by code, after its `u`. -/
def readCodeEscape : Scan Char := do
  let first ← readHex
  if isLowSurrogate first then fail .loneSurrogate
  else if isHighSurrogate first then
    nextOfPair '\\'
    nextOfPair 'u'
    let second ← readHex
    if isLowSurrogate second then
      return Char.ofNat (0x10000 + (first - 0xD800) * 0x400 + (second - 0xDC00))
    else fail .loneSurrogate
  else return Char.ofNat first

/-- The characters that follow a backslash in a short escape, with what they stand for. -/
def shortEscapes : List (Char × Char) :=
  [('"', '"'), ('\\', '\\'), ('/', '/'), ('b', '\x08'), ('f', '\x0c'), ('n', '\n'),
   ('r', '\r'), ('t', '\t')]

/-- Takes the rest of an escape, after its backslash. -/
def readEscape : Scan Char := do
  let c := Char.ofUInt8 (← nextInString)
  match shortEscapes.lookup c with
  | some meant => return meant
  | none => if c = 'u' then readCodeEscape else fail .invalidEscape

/-- Takes a string up to its closing quote, after the bytes `before` in reverse; at most `fuel`
characters and escapes. -/
def readBytes : Nat → List UInt8 → Scan (List UInt8)
  | 0, _ => fail .endInString
  | fuel + 1, before => do
    let b ← nextInString
    if Char.ofUInt8 b = '"' then return before.reverse
    else if Char.ofUInt8 b = '\\' then
      let c ← readEscape
      readBytes fuel ((String.utf8EncodeChar c).reverse ++ before)
    else if b < 0x20 then fail .controlCharacter
    else readBytes fuel (b :: before)

/-- Takes a string up to its closing quote and gives its text. A text that is not UTF-8 is
reported as many columns before the end as it has bytes from its first broken character on. -/
def readString : Scan String := do
  let bytes ← readBytes ((← get).rest.length + 1) []
  match Text.Utf8.decode? bytes with
  | some s => return s
  | none => failBefore (bytes.length - Text.Utf8.validPrefixLength bytes) .invalidUnicode

/-- Takes a string up to its closing quote, at most `fuel` characters and escapes. -/
def skipBytes : Nat → Scan Unit
  | 0 => fail .endInString
  | fuel + 1 => do
    let b ← nextInString
    if Char.ofUInt8 b = '"' then return ()
    else if Char.ofUInt8 b = '\\' then
      let c := Char.ofUInt8 (← nextInString)
      if (shortEscapes.lookup c).isSome then skipBytes fuel
      else if c = 'u' then
        let _ ← readHex
        skipBytes fuel
      else fail .invalidEscape
    else if b < 0x20 then fail .controlCharacter
    else skipBytes fuel

/-- Takes a string up to its closing quote. -/
def skipString : Scan Unit := do
  skipBytes ((← get).rest.length + 1)

end GoEnum.Json

/-
  Reading JSON text byte by byte.

  A `Cursor` holds the bytes that are left, the number of bytes taken, and whether
  the next byte has been looked at, which matters for the place of a fault. `Scan`
  is what reads: it moves the cursor on and may end with a fault at the cursor.
-/
import GoEnum.Json.Fault

namespace GoEnum.Json

/-- Where a reader stands. -/
structure Cursor where
  /-- The bytes not taken yet. -/
  rest : List UInt8
  /-- How many bytes have been taken. -/
  taken : Nat
  /-- Whether the first byte of `rest` has been looked at. -/
  peeked : Bool
deriving Repr, DecidableEq

/-- The cursor at the start of some bytes. -/
def Cursor.start (bytes : List UInt8) : Cursor :=
  ⟨bytes, 0, false⟩

/-- How many bytes have been taken or looked at. -/
def Cursor.pulled (c : Cursor) : Nat :=
  c.taken + if c.peeked && !c.rest.isEmpty then 1 else 0

/-- A reader of JSON text. -/
abbrev Scan := StateT Cursor (Except Fault)

/-- Ends with a fault that lies some columns before the cursor. -/
def failBefore {α : Type} (back : Nat) (reason : Reason) : Scan α := fun c =>
  .error ⟨reason, c.pulled, back⟩

/-- Ends with a fault at the cursor. -/
def fail {α : Type} (reason : Reason) : Scan α :=
  failBefore 0 reason

/-- Looks at the next byte, as the character of that code, without taking it. -/
def peek : Scan (Option Char) := fun c =>
  .ok ((c.rest.head?).map Char.ofUInt8, { c with peeked := true })

/-- Takes the next byte. -/
def nextByte : Scan (Option UInt8) := fun c =>
  match c.rest with
  | [] => .ok (none, c)
  | b :: rest => .ok (some b, ⟨rest, c.taken + 1, false⟩)

/-- Takes the next byte, as the character of that code. -/
def next : Scan (Option Char) :=
  return (← nextByte).map Char.ofUInt8

/-- Takes a byte that was looked at. -/
def discard : Scan Unit :=
  return ((fun _ => ()) (← nextByte))

/-- Takes bytes as long as their characters satisfy a condition. -/
def takeWhile (p : Char → Bool) : Scan (List Char) := fun c =>
  let run := c.rest.takeWhile fun b => p (.ofUInt8 b)
  if run.isEmpty then .ok ([], c)
  else .ok (run.map Char.ofUInt8, ⟨c.rest.drop run.length, c.taken + run.length, false⟩)

/-- Whether a character may stand between tokens. -/
def isSpace (c : Char) : Bool :=
  c == ' ' || c == '\n' || c == '\t' || c == '\r'

/-- Takes the white space before a token, and looks at the token's first byte. -/
def peekToken : Scan (Option Char) := do
  discardSpace
  peek
where
  discardSpace : Scan Unit := return ((fun _ => ()) (← takeWhile isSpace))

/-- Takes decimal digits, and looks at the byte after them. -/
def takeDigits : Scan (List Char) := do
  let digits ← takeWhile Char.isDigit
  let _ ← peek
  return digits

/-- Takes the rest of a word that must be spelt in one way. -/
def takeIdent : List Char → Scan Unit
  | [] => return ()
  | c :: cs => do
    match ← next with
    | none => fail .endInValue
    | some d => if d = c then takeIdent cs else fail .expectedIdent

end GoEnum.Json

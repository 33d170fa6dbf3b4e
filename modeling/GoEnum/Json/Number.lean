/-
  JSON numbers.

  `readNumber` takes a number and gives its value: a natural number of 64 bits, a
  negative integer of 64 bits, or a binary floating-point number for everything
  else. Digits count towards the significand as long as it stays below `2 ^ 64`;
  from the first one that does not fit on they only scale it, or are dropped after
  the point. `skipNumber` takes a number without looking at its value.
-/
import GoEnum.Decimal.Shortest
import GoEnum.Json.Cursor

namespace GoEnum.Json

/-- The value of a number. -/
inductive Number where
  /-- A natural number. -/
  | natural (n : Nat)
  /-- The negative of a natural number. -/
  | negative (n : Nat)
  /-- A floating-point number with a sign. -/
  | float (negative : Bool) (value : Decimal.Binary64)
deriving Repr, DecidableEq

/-- Floating-point numbers are written by position from `0.00001` to below `10 ^ 16`, and
otherwise with an exponent that always has a sign. -/
def floatFormat : Decimal.FloatFormat := ⟨-5, 15, "e+", "e-"⟩

/-- The number as messages show it. -/
def Number.shown : Number → String
  | .natural n => "integer `" ++ toString n ++ "`"
  | .negative n => "integer `-" ++ toString n ++ "`"
  | .float below value => "floating point `" ++ floatFormat.writeBinary below value ++ "`"

/-- The value of a decimal digit. -/
def digitValue (c : Char) : Nat :=
  c.toNat - '0'.toNat

/-- The first number that a significand cannot be. -/
def significandBound : Nat := 0x10000000000000000

/-- A significand with further digits: the digits that fit, one by one, and how many are left
from the first one on that does not. -/
def appendDigits (significand : Nat) : List Char → Nat × Nat
  | [] => (significand, 0)
  | c :: cs =>
    let longer := 10 * significand + digitValue c
    if longer < significandBound then appendDigits longer cs else (significand, cs.length + 1)

/-- The floating-point number for a significand and a power of ten. -/
def scaled (negative : Bool) (significand : Nat) (exponent : Int) : Scan Number :=
  match Decimal.Binary64.ofScaled? significand exponent with
  | some value => return .float negative value
  | none => fail .numberOutOfRange

/-- The first number that an exponent cannot be. -/
def exponentBound : Nat := 0x80000000

/-- Takes the digits of an exponent after the first ones, which spell `value`; at most `fuel` of
them. There is no exponent if it reaches its bound; the digit that makes it do so is the last one
taken. -/
def readExponentDigits : Nat → Nat → Scan (Option Nat)
  | 0, value => return some value
  | fuel + 1, value => do
    match ← peek with
    | some c =>
      if c.isDigit then
        discard
        let longer := 10 * value + digitValue c
        if longer < exponentBound then readExponentDigits fuel longer else return none
      else return some value
    | none => return some value

/-- Takes an exponent, from its `e` on, of a number whose digits are known. An exponent that is
too large makes the number zero or infinite, whatever further digits it has. -/
def readExponent (negative : Bool) (significand : Nat) (exponent : Int) : Scan Number := do
  discard
  let down ← readSign
  match ← next with
  | none => fail .endInValue
  | some c =>
    if c.isDigit then
      match ← readExponentDigits ((← get).rest.length + 1) (digitValue c) with
      | some value =>
        scaled negative significand (if down then exponent - value else exponent + value)
      | none =>
        if significand ≠ 0 ∧ ¬down then fail .numberOutOfRange
        else
          let _ ← takeDigits
          return .float negative .zero
    else fail .invalidNumber
where
  readSign : Scan Bool := do
    match ← peek with
    | some '+' =>
      discard
      return false
    | some '-' =>
      discard
      return true
    | _ => return false

/-- Takes what may follow the digits of a number after its point. -/
def readAfterFraction (negative : Bool) (significand : Nat) (exponent : Int) : Scan Number := do
  match ← peek with
  | some 'e' | some 'E' => readExponent negative significand exponent
  | _ => scaled negative significand exponent

/-- Takes the digits of a number from its point on. -/
def readFraction (negative : Bool) (significand : Nat) (exponent : Int) : Scan Number := do
  discard
  let digits ← takeDigits
  if digits.isEmpty then
    match ← peek with
    | some _ => fail .invalidNumber
    | none => fail .endInValue
  else
    let (longer, left) := appendDigits significand digits
    readAfterFraction negative longer (exponent - (digits.length - left : Nat))

/-- The value of an integer. A negative one that does not fit into 64 bits, and the negative of
zero, are floating-point numbers. -/
def integer (negative : Bool) (n : Nat) : Scan Number :=
  if !negative then return .natural n
  else if 0 < n ∧ 2 * n ≤ significandBound then return .negative n
  else scaled true n 0

/-- Takes what may follow the digits of a number before its point; `left` is how many of those
digits did not fit into the significand. -/
def readAfterInteger (negative : Bool) (significand left : Nat) : Scan Number := do
  match ← peek with
  | some '.' => readFraction negative significand left
  | some 'e' | some 'E' => readExponent negative significand left
  | _ => if left = 0 then integer negative significand else scaled negative significand left

/-- Takes a number, after its minus sign if it is negative. -/
def readNumber (negative : Bool) : Scan Number := do
  match ← next with
  | none => fail .endInValue
  | some c =>
    if c = '0' then
      match ← peek with
      | some d => if d.isDigit then fail .invalidNumber else readAfterInteger negative 0 0
      | none => readAfterInteger negative 0 0
    else if c.isDigit then
      let digits ← takeDigits
      let (significand, left) := appendDigits (digitValue c) digits
      readAfterInteger negative significand left
    else fail .invalidNumber

/-- Takes an exponent without looking at its value. -/
def skipExponent : Scan Unit := do
  discard
  match ← peek with
  | some '+' | some '-' => discard
  | _ => pure ()
  match ← next with
  | some c =>
    if c.isDigit then
      let _ ← takeDigits
      return ()
    else fail .invalidNumber
  | none => fail .invalidNumber

/-- Takes the digits from the point on without looking at their value. -/
def skipFraction : Scan Unit := do
  discard
  let digits ← takeDigits
  if digits.isEmpty then fail .invalidNumber
  else
    match ← peek with
    | some 'e' | some 'E' => skipExponent
    | _ => return ()

/-- Takes what may follow the digits of a number before its point. -/
def skipAfterInteger : Scan Unit := do
  match ← peek with
  | some '.' => skipFraction
  | some 'e' | some 'E' => skipExponent
  | _ => return ()

/-- Takes a number without looking at its value, after its minus sign if it has one. -/
def skipNumber : Scan Unit := do
  match ← next with
  | none => fail .invalidNumber
  | some c =>
    if c = '0' then
      match ← peek with
      | some d => if d.isDigit then fail .invalidNumber else skipAfterInteger
      | none => skipAfterInteger
    else if c.isDigit then
      let _ ← takeDigits
      skipAfterInteger
    else fail .invalidNumber

end GoEnum.Json

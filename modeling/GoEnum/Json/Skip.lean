/-
  Skipping a JSON value of any shape.

  The brackets that are open are kept on a stack, so nesting has no limit. The
  reader alternates between two states: it takes a value (`skipValue`), and then
  it closes brackets until a comma asks for the next value (`closeBrackets`).
-/
import GoEnum.Json.Number
import GoEnum.Json.Text

namespace GoEnum.Json

/-- An open bracket. -/
inductive Bracket where
  /-- The bracket of a list. -/
  | list
  /-- The brace of an object. -/
  | object
deriving Repr, DecidableEq

/-- The character that closes a bracket. -/
def Bracket.closing : Bracket → Char
  | .list => ']'
  | .object => '\x7d'

/-- The fault where the text ends before a bracket is closed. -/
def Bracket.endReason : Bracket → Reason
  | .list => .endInList
  | .object => .endInObject

/-- The fault where neither a comma nor the closing bracket follows an item. -/
def Bracket.itemEndReason : Bracket → Reason
  | .list => .expectedElementEnd
  | .object => .expectedMemberEnd

/-- Takes a value that begins with a given character, which has been looked at, if it is no list
or object; otherwise takes its opening bracket and gives that. -/
def skipLeaf (c : Char) : Scan (Option Bracket) :=
  match c with
  | 'n' => do
    discard
    takeIdent ['u', 'l', 'l']
    return none
  | 't' => do
    discard
    takeIdent ['r', 'u', 'e']
    return none
  | 'f' => do
    discard
    takeIdent ['a', 'l', 's', 'e']
    return none
  | '-' => do
    discard
    skipNumber
    return none
  | '"' => do
    discard
    skipString
    return none
  | '[' => do
    discard
    return some .list
  | '\x7b' => do
    discard
    return some .object
  | _ => do
    if c.isDigit then
      skipNumber
      return none
    else fail .expectedValue

/-- Closes brackets, the innermost one first, until an item must follow. `afterItem` tells whether
the innermost bracket has an item already. Gives the brackets that are still open then. -/
def closeBrackets : Bool → List Bracket → Scan (List Bracket)
  | _, [] => return []
  | afterItem, bracket :: outer => do
    match ← peekToken with
    | none => fail bracket.endReason
    | some c =>
      if afterItem && c == ',' then
        discard
        return bracket :: outer
      else if c = bracket.closing then
        discard
        closeBrackets true outer
      else if afterItem then fail bracket.itemEndReason
      else return bracket :: outer

/-- Takes the key of a member and the colon after it. -/
def skipKey : Scan Unit := do
  match ← peekToken with
  | some '"' =>
    discard
    skipString
    match ← peekToken with
    | some ':' => discard
    | some _ => fail .expectedColon
    | none => fail .endInObject
  | some _ => fail .keyNotString
  | none => fail .endInObject

/-- Takes a value, and everything after it up to the end of the outermost of the brackets `outer`
that it is in; at most `fuel` values. -/
def skipValueIn : Nat → List Bracket → Scan Unit
  | 0, _ => fail .endInValue
  | fuel + 1, outer => do
    match ← peekToken with
    | none => fail .endInValue
    | some c =>
      let opened ← skipLeaf c
      match ← closeBrackets opened.isNone (opened.toList ++ outer) with
      | [] => return ()
      | .list :: rest => skipValueIn fuel (.list :: rest)
      | .object :: rest =>
        skipKey
        skipValueIn fuel (.object :: rest)

/-- Takes a value of any shape. -/
def skipValue : Scan Unit := do
  skipValueIn ((← get).rest.length + 1) []

end GoEnum.Json

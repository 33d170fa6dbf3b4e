/-
  The settings of a project, as its JSON file gives them.

  Two fields are known: the program's name that is recorded in generated files,
  and whether the empty text is accepted. They come as the members of an object,
  in any order and among members with other keys, or as the first two elements of
  a list. A field that is missing has its default.
-/
import GoEnum.Json.Skip

namespace GoEnum

/-- The settings of a project. -/
structure Settings where
  /-- The first word of the command line that is recorded in generated files. -/
  programName : String := "go-enumgen"
  /-- Whether the empty text is read as the zero value. -/
  acceptEmpty : Bool := false
deriving Repr, DecidableEq

namespace Settings

open Json

/-- The fields that were found so far. -/
structure Found where
  /-- The program's name. -/
  programName : Option String := none
  /-- Whether the empty text is accepted. -/
  acceptEmpty : Option Bool := none
deriving Repr, DecidableEq

/-- The settings with the defaults for what was not found. -/
def Found.settings (found : Found) : Settings :=
  let defaults : Settings := {}
  { programName := found.programName.getD defaults.programName
    acceptEmpty := found.acceptEmpty.getD defaults.acceptEmpty }

/-! ### Values -/

/-- Takes a value that begins with `c`, which has been looked at, as far as it takes to say what
it is, and ends with the fault that it is not what was expected. -/
def wrongType {α : Type} (c : Char) (expected : String) : Scan α := do
  let found ← describe
  fail (.wrongType found expected)
where
  describe : Scan String :=
    match c with
    | 'n' => do
      discard
      takeIdent ['u', 'l', 'l']
      return "null"
    | 't' => do
      discard
      takeIdent ['r', 'u', 'e']
      return "boolean `true`"
    | 'f' => do
      discard
      takeIdent ['a', 'l', 's', 'e']
      return "boolean `false`"
    | '-' => do
      discard
      return (← readNumber true).shown
    | '"' => do
      discard
      return "string " ++ Text.quoted (← readString)
    | '[' => return "sequence"
    | '\x7b' => return "map"
    | _ => do
      if c.isDigit then return (← readNumber false).shown
      else fail .expectedValue

/-- Takes a string. -/
def readStringValue : Scan String := do
  match ← peekToken with
  | none => fail .endInValue
  | some '"' =>
    discard
    readString
  | some c => wrongType c "a string"

/-- Takes a Boolean. -/
def readBoolValue : Scan Bool := do
  match ← peekToken with
  | none => fail .endInValue
  | some 't' =>
    discard
    takeIdent ['r', 'u', 'e']
    return true
  | some 'f' =>
    discard
    takeIdent ['a', 'l', 's', 'e']
    return false
  | some c => wrongType c "a boolean"

/-! ### Objects -/

/-- The key of the program's name. -/
def programNameKey : String := "app_name"

/-- The key of the flag for the empty text. -/
def acceptEmptyKey : String := "allow_empty"

/-- Takes the colon between a key and its value. -/
def takeColon : Scan Unit := do
  match ← peekToken with
  | some ':' => discard
  | some _ => fail .expectedColon
  | none => fail .endInObject

/-- Ends with the fault that a field occurs twice; the byte after its key has been looked at. -/
def duplicate (key : String) : Scan Found := do
  let _ ← peekToken
  fail (.duplicateField key)

/-- Takes the rest of a member after its key. -/
def readField (found : Found) (key : String) : Scan Found := do
  if key = programNameKey then
    if found.programName.isSome then duplicate key
    else
      takeColon
      return { found with programName := some (← readStringValue) }
  else if key = acceptEmptyKey then
    if found.acceptEmpty.isSome then duplicate key
    else
      takeColon
      return { found with acceptEmpty := some (← readBoolValue) }
  else
    takeColon
    skipValue
    return found

/-- Takes what comes before the quote of a key, and the quote; or the end of the object. Tells
whether there is a key. -/
def openKey (isFirst : Bool) : Scan Bool := do
  match ← peekToken with
  | none => fail .endInObject
  | some '\x7d' =>
    discard
    return false
  | some c =>
    if isFirst then
      if c = '"' then
        discard
        return true
      else fail .keyNotString
    else if c = ',' then
      discard
      match ← peekToken with
      | some '"' =>
        discard
        return true
      | some '\x7d' => fail .trailingComma
      | some _ => fail .keyNotString
      | none => fail .endInValue
    else fail .expectedMemberEnd

/-- Takes the members of an object and its closing brace; at most `fuel` members. -/
def readMembers : Nat → Bool → Found → Scan Found
  | 0, _, _ => fail .endInObject
  | fuel + 1, isFirst, found => do
    if ← openKey isFirst then
      let key ← readString
      let found ← readField found key
      readMembers fuel false found
    else return found

/-! ### Lists -/

/-- Takes the next element of a list, after the comma before it; nothing if the list ends. -/
def readElement? {α : Type} (isFirst : Bool) (value : Scan α) : Scan (Option α) := do
  match ← peekToken with
  | none => fail .endInList
  | some ']' => return none
  | some c =>
    if isFirst then return some (← value)
    else if c = ',' then
      discard
      match ← peekToken with
      | some ']' => fail .trailingComma
      | some _ => return some (← value)
      | none => fail .endInValue
    else fail .expectedElementEnd

/-- Takes the end of a list that has no further elements. -/
def closeList : Scan Unit := do
  match ← peekToken with
  | some ']' => discard
  | some ',' =>
    discard
    match ← peekToken with
    | some ']' => fail .trailingComma
    | _ => fail .trailingCharacters
  | some _ => fail .trailingCharacters
  | none => fail .endInList

/-- Takes the fields as elements of a list, and its closing bracket. -/
def readElements : Scan Found := do
  let programName ← readElement? true readStringValue
  let acceptEmpty ← readElement? false readBoolValue
  closeList
  return { programName, acceptEmpty }

/-! ### The whole text -/

/-- Takes an object or a list of fields. -/
def readFields : Scan Found := do
  match ← peekToken with
  | none => fail .endInValue
  | some '\x7b' =>
    discard
    readMembers ((← get).rest.length + 1) true {}
  | some '[' =>
    discard
    readElements
  | some c => wrongType c "struct Config"

/-- Takes the whole text. -/
def readAll : Scan Settings := do
  let found ← readFields
  match ← peekToken with
  | none => return found.settings
  | some _ => fail .trailingCharacters

/-- The settings that the bytes of a file spell. -/
def parse (bytes : List UInt8) : Except Fault Settings :=
  (readAll.run (.start bytes)).map Prod.fst

end Settings

end GoEnum

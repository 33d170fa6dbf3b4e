/-
  Texts without what controls a terminal.

  A terminal obeys control characters, and control sequences that start with an
  escape character. `withoutControls` leaves both out, so that a message can quote
  any text and still only be read.

  It goes character by character in a `Mode`, which tells what the next character
  belongs to. A sequence has a head of ASCII characters, and some sequences have a
  payload after it. White space in a head is kept and suspends the sequence: text
  is kept from there on, until a control character takes the sequence up again or
  a character beyond ASCII ends it. The head of a device sequence, and a payload,
  swallow white space like everything else.
-/

namespace GoEnum.Text

namespace Control

/-- The head of a control sequence in which white space is kept. -/
inductive Head where
  /-- Only the escape has come. -/
  | escape
  /-- Characters between the escape and the last character have come. -/
  | intermediate
  /-- Parameters may come, and then a letter, which ends the sequence. -/
  | parameters
deriving Repr, DecidableEq

/-- The head of a device sequence, whose last letter begins the payload. -/
inductive DeviceHead where
  /-- Nothing has come. -/
  | start
  /-- Parameters have come. -/
  | parameters
  /-- Characters between the parameters and the last letter have come. -/
  | intermediate
deriving Repr, DecidableEq

/-- What ends a payload that is not cancelled. -/
inductive Terminator where
  /-- A bell. -/
  | bell
  /-- A character that is written in UTF-8 with the byte of the eight-bit string terminator. -/
  | stringEnd
deriving Repr, DecidableEq

/-- What the next character of a text belongs to. -/
inductive Mode where
  /-- The text itself. -/
  | plain
  /-- The head of a control sequence. -/
  | head (h : Head)
  /-- Text that has come after white space in the head of a control sequence. -/
  | suspended (h : Head)
  /-- The head of a device sequence. -/
  | device (d : DeviceHead)
  /-- The payload of a control sequence. -/
  | payload (t : Terminator)
deriving Repr, DecidableEq

/-- Whether a control character is white space. -/
def isSpace (c : Char) : Bool :=
  c == '\t' || c == '\n' || c == '\x0c' || c == '\r'

/-- Whether a character of the text itself is kept. -/
def isHarmless (c : Char) : Bool :=
  isSpace c || (' ' ≤ c && c ≠ '\x7f')

/-- Whether a character counts in a head: control characters and those beyond ASCII do not. -/
def counts (c : Char) : Bool :=
  ' ' ≤ c && c < '\x7f'

/-- The mode after a character that counts in a head. -/
def Head.next (h : Head) (c : Char) : Mode :=
  match h with
  | .escape =>
    if c < '0' then .head .intermediate
    else match c with
      | '[' => .head .parameters
      | ']' => .payload .bell
      | 'P' => .device .start
      | 'X' | '^' | '_' => .payload .stringEnd
      | _ => .plain
  | .intermediate => if c < '0' then .head .intermediate else .plain
  | .parameters => if c < '@' then .head .parameters else .plain

/-- The mode after a character that counts in the head of a device sequence. Parameters consist of
digits, colons and semicolons, and one of `<=>?` may come before them. What follows a head with
its parts in a wrong order is treated as payload. -/
def DeviceHead.next (d : DeviceHead) (c : Char) : Mode :=
  if '@' ≤ c then .payload .stringEnd
  else if c < '0' then .device .intermediate
  else match d with
    | .start => .device .parameters
    | .parameters => if c ≤ ';' then .device .parameters else .payload .stringEnd
    | .intermediate => .payload .stringEnd

/-- The byte that ends strings where controls have eight bits. -/
def stringEndByte : UInt8 := 0x9C

/-- Whether a character ends a payload. -/
def Terminator.accepts : Terminator → Char → Bool
  | .bell, c => c == '\x07'
  | .stringEnd, c => (String.utf8EncodeChar c).contains stringEndByte

/-- The mode after a character, and whether the character is kept. -/
def Mode.step (mode : Mode) (c : Char) : Mode × Bool :=
  if c = '\x1b' then (.head .escape, false)
  else if c = '\x18' ∨ c = '\x1a' then (.plain, false)
  else match mode with
    | .plain => (.plain, isHarmless c)
    | .head h =>
      if isSpace c then (.suspended h, true)
      else (if counts c then h.next c else mode, false)
    | .suspended h =>
      if isHarmless c then (if c ≤ '\x7f' then mode else .plain, true) else (.head h, false)
    | .device d => (if counts c then d.next c else mode, false)
    | .payload t => (if t.accepts c then .plain else mode, false)

/-- The characters that are kept of those that come in a mode. -/
def keptFrom : Mode → List Char → List Char
  | _, [] => []
  | mode, c :: cs =>
    let (next, keeps) := mode.step c
    if keeps then c :: keptFrom next cs else keptFrom next cs

end Control

/-- The text without control characters and control sequences. -/
def withoutControls (s : String) : String :=
  String.ofList (Control.keptFrom .plain s.toList)

end GoEnum.Text

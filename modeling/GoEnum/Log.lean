/-
  Log lines.

  An event has a level, the part of the program it comes from, and a message. It
  is shown if its level is within the verbosity. In a shown message, characters
  that could steer a terminal are written as escapes.
-/

namespace GoEnum.Log

/-- How much an event matters, the most important level first. -/
inductive Level where
  | error
  | warn
  | info
  | debug
  | trace
deriving Repr, DecidableEq

/-- The place of the level, counted from the most important one. -/
def Level.rank : Level → Nat
  | .error => 0
  | .warn => 1
  | .info => 2
  | .debug => 3
  | .trace => 4

/-- The name of the level, filled up on the left to five characters. -/
def Level.label : Level → String
  | .error => "ERROR"
  | .warn => " WARN"
  | .info => " INFO"
  | .debug => "DEBUG"
  | .trace => "TRACE"

/-- The least important level that is shown when details are asked for `count` times. -/
def Level.ofVerbosity : Nat → Level
  | 0 => .warn
  | 1 => .info
  | 2 => .debug
  | _ => .trace

/-- A part of the program that logs events. -/
inductive Part where
  | program
  | request
  | settings
  | generation
  | rendering
  | file
deriving Repr, DecidableEq

/-- The part as log lines name it. -/
def Part.label : Part → String
  | .program => "go_enumgen"
  | .request => "enumgen::generator::invocation"
  | .settings => "enumgen::utils::config"
  | .generation => "enumgen::generator::generator"
  | .rendering => "enumgen::generator::templates::go"
  | .file => "enumgen::utils::file"

/-- What happened, and where in the program. -/
structure Event where
  level : Level
  part : Part
  message : String
deriving Repr, DecidableEq

/-- Whether an event is shown when `threshold` is the least important level that is. -/
def Event.isShown (threshold : Level) (event : Event) : Bool :=
  event.level.rank ≤ threshold.rank

/-- The characters that are written as a two-digit escape because they could steer a terminal:
bell, backspace, form feed, escape and delete. -/
def steering : List (Char × String) :=
  [('\x07', "\\x07"), ('\x08', "\\x08"), ('\x0c', "\\x0c"), ('\x1b', "\\x1b"), ('\x7f', "\\x7f")]

/-- A character as it stands in a shown message. Besides the steering characters, the second
block of control characters is written by code point. -/
def harmless (c : Char) : List Char :=
  match steering.lookup c with
  | some text => text.toList
  | none =>
    if 0x80 ≤ c.toNat ∧ c.toNat ≤ 0x9F then
      '\\' :: 'u' :: '\x7b' :: (Nat.toDigits 16 c.toNat ++ ['\x7d'])
    else [c]

/-- The line that shows an event. -/
def Event.line (event : Event) : String :=
  event.level.label ++ " " ++ event.part.label ++ ": "
    ++ String.ofList (event.message.toList.flatMap harmless)

end GoEnum.Log

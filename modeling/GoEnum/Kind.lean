/-
  The kind of an enumeration: backed by strings or by an integer type.

  A kind is written as a token: `string`, `int`, or `int:` and an integer type.
  Case and white space around the token do not matter. `Kind.parse` reads a token
  and `Kind.label` writes it in its normal form.
-/
import GoEnum.Text.Trim

namespace GoEnum

/-- What the constants of an enumeration are made of. -/
inductive Kind where
  /-- Strings: each constant is its own name. -/
  | string
  /-- Integers, counted from zero, of the named type if one is named. -/
  | int (backing : Option String)
deriving Repr, DecidableEq

/-- The integer types that can be named, in the order in which messages list them. -/
def integerTypes : List String := [
  "int", "int8", "int16", "int32", "int64", "uint", "uint8", "uint16", "uint32", "uint64",
  "uintptr", "byte", "rune"]

/-- Why a token names no kind. -/
inductive KindError where
  /-- The type after `int:` is not one of the integer types. -/
  | unsupportedBacking (backing : String)
  /-- The token, in its normal form, is of none of the three forms. -/
  | unknown (token : String)
deriving Repr, DecidableEq

/-- The text that reports the error. -/
def KindError.message : KindError → String
  | .unsupportedBacking backing =>
    "unsupported backing type '" ++ backing ++ "', expected one of: "
      ++ ", ".intercalate integerTypes
  | .unknown token =>
    "unknown enum kind '" ++ token ++ "', expected 'string', 'int' or 'int:<type>'"

namespace Kind

/-- The underlying type of the generated type. -/
def goType : Kind → String
  | .string => "string"
  | .int backing => backing.getD "int"

/-- Whether the kind names its integer type. -/
def hasBacking : Kind → Bool
  | .int (some _) => true
  | _ => false

/-- The token of the kind. -/
def label : Kind → String
  | .string => "string"
  | .int none => "int"
  | .int (some backing) => "int:" ++ backing

/-- A token without white space around it and with its ASCII letters in small form. -/
def normalToken (token : String) : List Char :=
  (Text.trim token.toList).map Char.toLower

/-- The characters before the first colon, and those after it if there is one. -/
def cutAtColon (cs : List Char) : List Char × Option (List Char) :=
  (cs.takeWhile (· != ':'), (cs.dropWhile (· != ':')).tail?)

/-- The kind that a token names. -/
def parse (token : String) : Except KindError Kind :=
  let normal := normalToken token
  match cutAtColon normal with
  | (stem, none) =>
    if stem = ['s', 't', 'r', 'i', 'n', 'g'] then .ok .string
    else if stem = ['i', 'n', 't'] then .ok (.int none)
    else .error (.unknown (String.ofList normal))
  | (stem, some backing) =>
    if stem = ['i', 'n', 't'] then
      if String.ofList backing ∈ integerTypes then .ok (.int (some (String.ofList backing)))
      else .error (.unsupportedBacking (String.ofList backing))
    else .error (.unknown (String.ofList normal))

end Kind

end GoEnum

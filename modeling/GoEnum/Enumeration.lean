/-
  An enumeration: what it is made of, its name and its values.
-/
import GoEnum.Kind

namespace GoEnum

/-- An enumeration to be generated. -/
structure Enumeration where
  /-- What its constants are made of. -/
  kind : Kind
  /-- The name of its type. -/
  name : String
  /-- Its values, in the order in which they are declared. -/
  values : List String
deriving Repr, DecidableEq

/-- Everything that the text of a generated file depends on. -/
structure Listing where
  /-- The command line that is recorded in the first line. -/
  commandLine : String
  /-- The enumeration that is declared. -/
  enumeration : Enumeration
  /-- Whether the empty text is read as the zero value. -/
  acceptEmpty : Bool
deriving Repr, DecidableEq

end GoEnum

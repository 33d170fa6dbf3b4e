/-
  The text of a generated file.

  `Listing.body?` lays the sections of the file out without a line feed at its
  end, and `Listing.render?` adds that line feed. There is no text if the
  constants of a string enumeration are too long to be padded to one width.
-/
import GoEnum.Source.IntegerEnum
import GoEnum.Source.StringEnum

namespace GoEnum

/-- The sections of the generated file. -/
def Listing.sections? (listing : Listing) : Option (List (List String)) :=
  let enumeration := listing.enumeration
  match enumeration.kind with
  | .string =>
    Source.StringEnum.sections? listing.commandLine enumeration.name listing.acceptEmpty
      enumeration.values
  | .int backing =>
    some (Source.IntegerEnum.sections listing.commandLine enumeration.name backing
      listing.acceptEmpty enumeration.values)

/-- The text of the generated file, up to its last line feed. -/
def Listing.body? (listing : Listing) : Option String :=
  listing.sections?.map Source.fileText

/-- The text with a line feed at its end, if it has none. -/
def endLine (text : String) : String :=
  if text.toList.getLast? = some '\n' then text else text ++ "\n"

/-- The text of the generated file. -/
def Listing.render? (listing : Listing) : Option String :=
  listing.body?.map endLine

end GoEnum

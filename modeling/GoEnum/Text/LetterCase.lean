/-
  Letter case of texts: small letters for a whole text, a capital first letter.

  Both follow the full mappings of `Property.Case`, so one character may become
  several (`ß` is capitalised as `SS`). The only context-dependent rule is that of
  the Greek sigma: the capital one becomes the final small sigma at the end of a
  word (`isWordEnd`), and the ordinary one elsewhere.
-/
import GoEnum.Text.Property.Case
import GoEnum.Text.Property.Cased

namespace GoEnum.Text

/-- The image of a character under a case mapping: the exception for it, else its run's image,
else the character itself. -/
def mapCase (expansions : List (Nat × List Nat)) (runs : List CaseRun) (c : Char) : List Char :=
  match expansions.lookup c.toNat with
  | some codes => codes.map Char.ofNat
  | none => [Char.ofNat ((mapped? runs c.toNat).getD c.toNat)]

/-- The small form of a character. -/
def toSmall (c : Char) : List Char :=
  mapCase lowerExpansions lowerRuns c

/-- The capital form of a character. -/
def toCapital (c : Char) : List Char :=
  mapCase upperExpansions upperRuns c

/-- Whether a word goes on into `cs`: its first character that is not case-ignorable is cased. -/
def continuesWord (cs : List Char) : Bool :=
  match cs.dropWhile isCaseIgnorable with
  | [] => false
  | c :: _ => isCased c

/-- Whether a letter between `before` (nearest character first) and `after` ends a word. -/
def isWordEnd (before after : List Char) : Bool :=
  continuesWord before && !continuesWord after

/-- The small form of the characters `cs` that follow `before` (nearest character first). -/
def lowercaseFrom (before : List Char) : List Char → List Char
  | [] => []
  | c :: cs =>
    (if c = 'Σ' then [if isWordEnd before cs then 'ς' else 'σ'] else toSmall c)
      ++ lowercaseFrom (c :: before) cs

/-- The text in small letters. -/
def lowercase (s : String) : String :=
  String.ofList (lowercaseFrom [] s.toList)

/-- The characters with the first one in its capital form. -/
def capitalizeFirst : List Char → List Char
  | [] => []
  | c :: cs => toCapital c ++ cs

/-- The text with its first character in its capital form, the others as they are. -/
def capitalize (s : String) : String :=
  String.ofList (capitalizeFirst s.toList)

/-- The first character of a text, as a text. -/
def firstChar (s : String) : String :=
  String.ofList (s.toList.take 1)

end GoEnum.Text

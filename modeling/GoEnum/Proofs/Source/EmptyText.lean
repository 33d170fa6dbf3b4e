/-
  What accepting the empty text changes in a generated file.

  Two pieces are inserted and everything else stays: a line in the comment of the function
  that reads a value, and one more label in the switch that tells values from other texts
  (`acceptEmpty_inserts`). Only some sections know of the flag, so it is enough to compare
  these, line by line. A run looks at the flag of the request and that of the settings
  only to see whether one of them is set.
-/
import GoEnum.Proofs.Generation.Rendered
import GoEnum.Proofs.Source.Marker

namespace GoEnum.Source

open Naming

/-! ### The text after the header -/

/-- The text after the header has the lines of the sections, each after an empty line. -/
theorem remainder?_eq {enumeration : Enumeration} {acceptEmpty : Bool}
    {sections : List (List String)}
    (h : afterMarker? enumeration acceptEmpty = some sections)
    (hlast : (sections.flatMap ("" :: ·)).getLast? = some "\x7d") :
    remainder? enumeration acceptEmpty = some (closedLines (sections.flatMap ("" :: ·))) := by
  rw [remainder?, h, Option.map_some, endLine_intercalate hlast (by decide) (by decide)]

/-! ### Insertions -/

/-- A piece of text, and what is right before and after the place where it is inserted. -/
structure Insertion where
  /-- The text before the place. -/
  before : String
  /-- What is inserted. -/
  piece : String
  /-- The text after the place. -/
  after : String

/-- Whether a text is another one with two insertions, the first one before the second. -/
def Inserts (first second : Insertion) (text longer : String) : Prop :=
  ∃ front middle back,
    text = front ++ first.before ++ first.after ++ middle ++ second.before ++ second.after ++ back ∧
    longer = front ++ first.before ++ first.piece ++ first.after ++ middle ++ second.before
      ++ second.piece ++ second.after ++ back

/-- The line that tells of the empty text, between the comment of the function that reads a value
and the function. -/
def emptyComment (name : String) : Insertion where
  before := "// " ++ parseFunction name ++ " converts s into a " ++ name ++ ".\n"
  piece := "// The empty string is accepted and yields the zero value.\n"
  after := "func " ++ parseFunction name ++ "(s string) (" ++ name ++ ", error) \x7b\n"

/-- The empty label in the one case of the method that tells valid values from others, before the
first constant. -/
def emptyValid (name first : String) : Insertion where
  before := "func (" ++ receiver name ++ " " ++ name ++ ") IsValid() bool \x7b\n\tswitch "
    ++ receiver name ++ " \x7b\n\tcase "
  piece := "\"\", "
  after := constant first

/-- The empty label in the first case of the function that reads a value, after the label of the
first value. -/
def emptyCase (first : String) : Insertion where
  before := "\tswitch s \x7b\n\tcase " ++ Lexeme.literal first
  piece := ", \"\""
  after := ":\n\t\treturn " ++ constant first ++ ", nil\n"

/-- What is inserted where the empty text is accepted, in the order of the file. -/
def insertions (kind : Kind) (name first : String) : Insertion × Insertion :=
  match kind with
  | .string => (emptyValid name first, emptyComment name)
  | .int _ => (emptyComment name, emptyCase first)

/-- The piece of an insertion if it is made, and nothing otherwise. -/
def Insertion.made (insertion : Insertion) (acceptEmpty : Bool) : String :=
  if acceptEmpty then insertion.piece else ""

/-- Whether a text, which depends on the flag for the empty text, is put together from pieces that
do not, and two insertions that are made where the flag is set. -/
def IsFilled (first second : Insertion) (text : Bool → String) : Prop :=
  ∃ front middle back, ∀ acceptEmpty, text acceptEmpty =
    front ++ first.before ++ first.made acceptEmpty ++ first.after ++ middle
      ++ second.before ++ second.made acceptEmpty ++ second.after ++ back

theorem IsFilled.inserts {first second : Insertion} {text : Bool → String}
    (h : IsFilled first second text) : Inserts first second (text false) (text true) := by
  obtain ⟨front, middle, back, htext⟩ := h
  refine ⟨front, middle, back, ?_, ?_⟩
  · simp only [htext, Insertion.made, Bool.false_eq_true, if_false, String.append_empty]
  · simp only [htext, Insertion.made, if_true]

theorem IsFilled.append {first second : Insertion} {text : Bool → String}
    (h : IsFilled first second text) (before after : String) :
    IsFilled first second fun acceptEmpty => before ++ text acceptEmpty ++ after := by
  obtain ⟨front, middle, back, htext⟩ := h
  refine ⟨before ++ front, middle, back ++ after, fun acceptEmpty => ?_⟩
  simp only [htext, String.append_assoc]

/-! ### The sections that know of the flag -/

variable {name first : String} {others : List String}

theorem exists_intercalate_cons (separator s : String) (ss : List String) :
    ∃ rest, separator.intercalate (s :: ss) = s ++ rest := by
  cases ss with
  | nil => exact ⟨"", by simp⟩
  | cons t ss => exact ⟨_, by rw [String.intercalate_cons_cons, String.append_assoc]⟩

theorem closedLines_block (header : String) (body : List String) :
    closedLines (block header body) =
      header ++ " \x7b\n" ++ closedLines (indent body ++ ["\x7d"]) := by
  have hopening : header ++ " \x7b" ++ "\n" = header ++ " \x7b\n" := by
    rw [String.append_assoc]
    rfl
  rw [block, enclosed, closedLines, hopening]

/-- A block that starts with a switch starts with its header, the subject and the first case. -/
theorem closedLines_block_switchOn (header subject label answer : String)
    (cases : List (String × List String)) (rest : List String) :
    ∃ back, ∀ more,
      closedLines (block header (switchOn subject ((label ++ more, [answer]) :: cases) ++ rest)) =
        header ++ " \x7b\n" ++ ("\tswitch " ++ subject ++ " \x7b\n\tcase " ++ label) ++ more
          ++ (":\n\t\t" ++ answer ++ "\n") ++ back := by
  refine ⟨closedLines (indent (cases.flatMap (fun c => ("case " ++ c.1 ++ ":") :: indent c.2)
    ++ "\x7d" :: rest) ++ ["\x7d"]), fun more => ?_⟩
  simp only [closedLines_block, switchOn_eq, List.flatMap_cons, indent, List.map_cons, List.map_nil,
    List.cons_append, List.nil_append, List.append_assoc, closedLines]
  generalize closedLines _ = back
  simp [String.ext_iff]

theorem closedLines_parseComment (name : String) (acceptEmpty : Bool) :
    closedLines (parseComment name acceptEmpty) =
      (emptyComment name).before ++ (emptyComment name).made acceptEmpty := by
  cases acceptEmpty <;>
    simp [parseComment, closedLines, emptyComment, Insertion.made, String.append_assoc]

theorem closedLines_validity (name first : String) (others : List String) :
    ∃ front back, ∀ acceptEmpty,
      closedLines (StringEnum.validityDeclaration name acceptEmpty (first :: others)) =
        front ++ (emptyValid name first).before ++ (emptyValid name first).made acceptEmpty
          ++ (emptyValid name first).after ++ back := by
  obtain ⟨rest, hrest⟩ := exists_intercalate_cons ", " (constant first) (others.map constant)
  obtain ⟨back, hback⟩ := closedLines_block_switchOn (method name "IsValid() bool")
    (receiver name) "" "return true" [] ["return false"]
  have hlabels : ∀ acceptEmpty, StringEnum.validLabels acceptEmpty (first :: others) =
      "" ++ ((emptyValid name first).made acceptEmpty ++
        ((emptyValid name first).after ++ rest)) := by
    intro acceptEmpty
    rw [String.empty_append, StringEnum.validLabels, List.map_cons, hrest]
    rfl
  have hopening : method name "IsValid() bool" ++ " \x7b\n" ++
      ("\tswitch " ++ receiver name ++ " \x7b\n\tcase " ++ "") =
        (emptyValid name first).before := by
    simp [String.ext_iff, method, emptyValid]
  refine ⟨validityComment name ++ "\n", rest ++ (":\n\t\t" ++ "return true" ++ "\n") ++ back,
    fun acceptEmpty => ?_⟩
  rw [StringEnum.validityDeclaration, closedLines, hlabels, hback, hopening]
  simp only [String.append_assoc]

theorem parseHeader_append (name : String) :
    parseHeader name ++ " \x7b\n" = (emptyComment name).after := by
  simp [String.ext_iff, parseHeader, emptyComment]

theorem closedLines_stringParse (name : String) :
    ∃ back, ∀ acceptEmpty, closedLines (StringEnum.parseDeclaration name acceptEmpty) =
      (emptyComment name).before ++ (emptyComment name).made acceptEmpty
        ++ (emptyComment name).after ++ back := by
  refine ⟨closedLines (indent (["parsed := " ++ name ++ "(s)"]
    ++ guardValid "parsed" ("\"\", " ++ invalidValue name "%q" "s") ++ ["return parsed, nil"])
    ++ ["\x7d"]), fun acceptEmpty => ?_⟩
  rw [StringEnum.parseDeclaration, closedLines_append, closedLines_parseComment,
    closedLines_block, parseHeader_append, ← String.append_assoc]

theorem closedLines_integerParse (name first : String) (others : List String) :
    ∃ back, ∀ acceptEmpty,
      closedLines (IntegerEnum.parseDeclaration name acceptEmpty (first :: others)) =
        (emptyComment name).before ++ (emptyComment name).made acceptEmpty
          ++ (emptyComment name).after ++ (emptyCase first).before
          ++ (emptyCase first).made acceptEmpty ++ (emptyCase first).after ++ back := by
  obtain ⟨back, hback⟩ := closedLines_block_switchOn (parseHeader name) "s" (Lexeme.literal first)
    ("return " ++ constant first ++ ", nil") (others.map (IntegerEnum.parseCase ""))
    ["return 0, " ++ invalidValue name "%q" "s"]
  have hcases : ∀ acceptEmpty, IntegerEnum.parseCases acceptEmpty (first :: others) =
      (Lexeme.literal first ++ (emptyCase first).made acceptEmpty,
        ["return " ++ constant first ++ ", nil"]) :: others.map (IntegerEnum.parseCase "") :=
    fun _ => rfl
  have hopening : "\tswitch " ++ "s" ++ " \x7b\n\tcase " ++ Lexeme.literal first =
      (emptyCase first).before := rfl
  have hanswer : ":\n\t\t" ++ ("return " ++ constant first ++ ", nil") ++ "\n" =
      (emptyCase first).after := by
    change _ = ":\n\t\treturn " ++ constant first ++ ", nil\n"
    generalize constant first = answer
    simp [String.ext_iff]
  refine ⟨back, fun acceptEmpty => ?_⟩
  rw [IntegerEnum.parseDeclaration, closedLines_append, closedLines_parseComment, hcases, hback,
    parseHeader_append, hopening, hanswer]
  simp only [String.append_assoc]

/-- The sections that know whether the empty text is accepted; they stand next to each other. -/
def flaggedSections (enumeration : Enumeration) (acceptEmpty : Bool) : List (List String) :=
  match enumeration.kind with
  | .string =>
    [StringEnum.validityDeclaration enumeration.name acceptEmpty enumeration.values,
     StringEnum.parseDeclaration enumeration.name acceptEmpty]
  | .int _ => [IntegerEnum.parseDeclaration enumeration.name acceptEmpty enumeration.values]

theorem isFilled_flaggedSections (kind : Kind) (name first : String) (others : List String) :
    IsFilled (insertions kind name first).1 (insertions kind name first).2 fun acceptEmpty =>
      closedLines
        ((flaggedSections ⟨kind, name, first :: others⟩ acceptEmpty).flatMap ("" :: ·)) := by
  cases kind with
  | string =>
    obtain ⟨front, middle, hvalidity⟩ := closedLines_validity name first others
    obtain ⟨back, hparse⟩ := closedLines_stringParse name
    refine ⟨"\n" ++ front, middle ++ "\n", back, fun acceptEmpty => ?_⟩
    simp only [flaggedSections, List.flatMap_cons, List.flatMap_nil, List.append_nil,
      List.cons_append, closedLines, closedLines_append, hvalidity, hparse, insertions,
      String.empty_append, String.append_assoc]
  | int backing =>
    obtain ⟨back, hparse⟩ := closedLines_integerParse name first others
    refine ⟨"\n", "", back, fun acceptEmpty => ?_⟩
    simp only [flaggedSections, List.flatMap_cons, List.flatMap_nil, List.append_nil,
      closedLines, hparse, insertions, String.empty_append, String.append_assoc]

/-- No other section knows of the flag, and the last one ends with a brace. -/
theorem afterMarker?_eq_flagged {enumeration : Enumeration} (h : enumeration.IsPaddable) :
    ∃ before after, (after.flatMap ("" :: ·)).getLast? = some "\x7d" ∧
      ∀ acceptEmpty, afterMarker? enumeration acceptEmpty =
        some (before ++ flaggedSections enumeration acceptEmpty ++ after) := by
  obtain ⟨kind, name, values⟩ := enumeration
  cases kind with
  | string =>
    refine ⟨((StringEnum.sections "" name false values).tail).take 7,
      (StringEnum.sections "" name false values).drop 10, ?_, fun acceptEmpty => ?_⟩
    · simp [StringEnum.sections, unmarshalDeclaration, List.getLast?_cons]
    · have hsections := StringEnum.sections?_eq_some (h rfl) "" name acceptEmpty
      rw [afterMarker?, Listing.sections?]
      dsimp only
      rw [hsections]
      rfl
  | int backing =>
    refine ⟨((IntegerEnum.sections "" name backing false values).tail).take 9,
      (IntegerEnum.sections "" name backing false values).drop 11, ?_, fun acceptEmpty => rfl⟩
    cases backing with
    | none => simp [IntegerEnum.sections, IntegerEnum.conversions, unmarshalDeclaration,
        List.getLast?_cons]
    | some backing => simp [IntegerEnum.sections, IntegerEnum.conversions,
        IntegerEnum.fromDeclaration, List.getLast?_cons]

/-! ### The whole text -/

theorem isFilled_remainder {kind : Kind} {name first : String} {others : List String}
    (h : Enumeration.IsPaddable ⟨kind, name, first :: others⟩) :
    ∃ text, IsFilled (insertions kind name first).1 (insertions kind name first).2 text ∧
      ∀ acceptEmpty, remainder? ⟨kind, name, first :: others⟩ acceptEmpty =
        some (text acceptEmpty) := by
  obtain ⟨before, after, hlast, hsections⟩ := afterMarker?_eq_flagged h
  refine ⟨_, (isFilled_flaggedSections kind name first others).append
    (closedLines (before.flatMap ("" :: ·))) (closedLines (after.flatMap ("" :: ·))),
    fun acceptEmpty => ?_⟩
  have hend : ((before ++ flaggedSections ⟨kind, name, first :: others⟩ acceptEmpty
      ++ after).flatMap ("" :: ·)).getLast? = some "\x7d" := by
    rw [List.flatMap_append, List.getLast?_append, hlast, Option.some_or]
  rw [remainder?_eq (hsections acceptEmpty) hend, List.flatMap_append, List.flatMap_append,
    closedLines_append, closedLines_append]

/-- Where there is a text at all, accepting the empty text makes two insertions after the header
and changes nothing else; and two runs that differ only in which of the two flags are set, but not
in whether one of them is, do the same on every host. -/
theorem acceptEmpty_inserts {commandLine text : String} {kind : Kind} {name first : String}
    {others : List String} {flag : Bool}
    (h : Listing.render? ⟨commandLine, ⟨kind, name, first :: others⟩, flag⟩ = some text) :
    (∃ off on, Inserts (insertions kind name first).1 (insertions kind name first).2 off on ∧
      ∀ line,
        Listing.render? ⟨line, ⟨kind, name, first :: others⟩, false⟩ =
          some (header line ++ "\n" ++ off) ∧
        Listing.render? ⟨line, ⟨kind, name, first :: others⟩, true⟩ =
          some (header line ++ "\n" ++ on)) ∧
    ∀ (m : Type → Type) [Monad m] [Host m] (settings : Settings) (request : Request)
      (arguments : List String) (configured given : Bool),
      (given || configured) = (request.acceptEmpty || settings.acceptEmpty) →
      (Generation.generate settings request arguments : Action m Path) =
        Generation.generate { settings with acceptEmpty := configured }
          { request with acceptEmpty := given } arguments := by
  constructor
  · have hpaddable := (isSome_render?_iff _).mp (Option.isSome_of_eq_some h)
    obtain ⟨remainder, hfilled, hremainder⟩ := isFilled_remainder hpaddable
    refine ⟨_, _, hfilled.inserts, fun line => ⟨?_, ?_⟩⟩ <;>
    · rw [render?_eq, hremainder]
      rfl
  · intro m _ _ settings request arguments configured given hflags
    have hlisting : Generation.listingOf { settings with acceptEmpty := configured }
        { request with acceptEmpty := given } arguments =
        Generation.listingOf settings request arguments := by
      simp only [Generation.listingOf, Request.listing, hflags]
    unfold Generation.generate
    rw [hlisting]
    rfl

theorem acceptEmpty_inserts_size :
    (∃ text, Listing.render? ⟨"go-enum\nagain", ⟨.int "uint8", "Size", ["small", "b\"g"]⟩, false⟩ =
      some text) ∧
    ∃ off on, Inserts (emptyComment "Size") (emptyCase "small") off on ∧
      Listing.render? ⟨"", ⟨.int "uint8", "Size", ["small", "b\"g"]⟩, false⟩ =
        some (header "" ++ "\n" ++ off) ∧
      Listing.render? ⟨"", ⟨.int "uint8", "Size", ["small", "b\"g"]⟩, true⟩ =
        some (header "" ++ "\n" ++ on) := by
  have hrender : ∃ text, Listing.render?
      ⟨"go-enum\nagain", ⟨.int "uint8", "Size", ["small", "b\"g"]⟩, false⟩ = some text := ⟨_, rfl⟩
  refine ⟨hrender, ?_⟩
  obtain ⟨text, hrender⟩ := hrender
  obtain ⟨off, on, hinserts, htexts⟩ := (acceptEmpty_inserts hrender).1
  exact ⟨off, on, hinserts, htexts ""⟩

end GoEnum.Source

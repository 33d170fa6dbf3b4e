/-
  The comment that marks a file as generated, and what comes after it.

  The recorded command line reaches the text in one place only: a text is its
  header, a line feed, and a remainder that does not depend on the command line
  (`render?_eq`). Arguments are quoted so as to stay on one line, so the command
  line stays on one line just when the program's name does
  (`oneLine_commandLine_iff`). The name comes from the settings as it is, and a
  line feed in it ends the comment: what follows of the name is then source text.
-/
import GoEnum.Proofs.Generation.Written
import GoEnum.Proofs.Request
import GoEnum.Proofs.Source.Header
import GoEnum.Proofs.Source.IntegerEnum
import GoEnum.Proofs.Source.StringEnum
import GoEnum.Settings

namespace GoEnum.Source

open Text

/-! ### Before and after the marker -/

/-- The line that marks a file as generated by a command line. -/
def header (commandLine : String) : String :=
  "// Code generated by " ++ commandLine ++ "; DO NOT EDIT."

/-- The sections after the marker. -/
def afterMarker? (enumeration : Enumeration) (acceptEmpty : Bool) : Option (List (List String)) :=
  (Listing.sections? ⟨"", enumeration, acceptEmpty⟩).map List.tail

/-- The text after the header and its line feed. -/
def remainder? (enumeration : Enumeration) (acceptEmpty : Bool) : Option String :=
  (afterMarker? enumeration acceptEmpty).map fun sections =>
    endLine ("\n".intercalate (sections.flatMap ("" :: ·)))

theorem sections?_eq (commandLine : String) (enumeration : Enumeration) (acceptEmpty : Bool) :
    Listing.sections? ⟨commandLine, enumeration, acceptEmpty⟩ =
      (afterMarker? enumeration acceptEmpty).map (marker commandLine :: ·) := by
  obtain ⟨kind, name, values⟩ := enumeration
  unfold afterMarker? Listing.sections?
  cases kind with
  | string =>
    simp only [StringEnum.sections?, Option.map_map]
    rfl
  | int backing => rfl

/-- The package clause comes right after the marker, and there is more. -/
theorem afterMarker?_eq_cons {enumeration : Enumeration} {acceptEmpty : Bool}
    {sections : List (List String)} (h : afterMarker? enumeration acceptEmpty = some sections) :
    ∃ after, sections = packageClause enumeration.name :: importGroup :: after := by
  obtain ⟨kind, name, values⟩ := enumeration
  unfold afterMarker? Listing.sections? at h
  cases kind with
  | string =>
    unfold StringEnum.sections? at h
    cases hgroup : StringEnum.constantGroup? name values with
    | none => simp [hgroup] at h
    | some constants =>
      simp only [hgroup, Option.map_some, List.tail_cons, Option.some.injEq] at h
      exact ⟨_, h.symm⟩
  | int backing => exact ⟨_, (Option.some.inj h).symm⟩

/-- A text is its header, a line feed, and what does not depend on the command line. -/
theorem render?_eq (commandLine : String) (enumeration : Enumeration) (acceptEmpty : Bool) :
    Listing.render? ⟨commandLine, enumeration, acceptEmpty⟩ =
      (remainder? enumeration acceptEmpty).map (header commandLine ++ "\n" ++ ·) := by
  unfold Listing.render? Listing.body? remainder?
  rw [sections?_eq]
  cases hafter : afterMarker? enumeration acceptEmpty with
  | none => rfl
  | some sections =>
    obtain ⟨after, rfl⟩ := afterMarker?_eq_cons hafter
    simp only [Option.map_some]
    have hrest :
        (packageClause enumeration.name :: importGroup :: after).flatMap ("" :: ·) ≠ [] := by
      simp
    -- As something follows the header, whether a line feed is put at the end does not hang on it.
    have htext : "\n".intercalate
        ((packageClause enumeration.name :: importGroup :: after).flatMap ("" :: ·)) ≠ "" := by
      rw [List.flatMap_cons, List.cons_append, String.intercalate_cons_of_ne_nil (by simp)]
      simp
    rw [fileText, fileLines_cons, marker, List.singleton_append,
      String.intercalate_cons_of_ne_nil hrest, endLine_append_of_ne _ htext]
    rfl

/-- The remainder starts with an empty line and the package clause. -/
theorem lines_remainder? {enumeration : Enumeration} {acceptEmpty : Bool} {rest : String}
    (hname : OneLine enumeration.name) (h : remainder? enumeration acceptEmpty = some rest) :
    ∃ after, lines rest = "" :: ("package " ++ Naming.packageName enumeration.name) :: after := by
  obtain ⟨sections, hsections, rfl⟩ := Option.map_eq_some_iff.mp h
  obtain ⟨after, rfl⟩ := afterMarker?_eq_cons hsections
  have hclause : OneLine ("package " ++ Naming.packageName enumeration.name) := by
    have hpackage : OneLine (Naming.packageName enumeration.name) := oneLine_lowercase hname
    simp +decide [hpackage]
  have hrest : (importGroup :: after).flatMap ("" :: ·) ≠ [] := by simp
  obtain ⟨u, hu⟩ := endLine_append
    ("" ++ "\n" ++ (("package " ++ Naming.packageName enumeration.name) ++ "\n"))
    ("\n".intercalate ((importGroup :: after).flatMap ("" :: ·)))
  refine ⟨lines u, ?_⟩
  rw [List.flatMap_cons, List.cons_append, String.intercalate_cons_of_ne_nil (by simp),
    packageClause, List.singleton_append, String.intercalate_cons_of_ne_nil hrest,
    ← String.append_assoc, hu, String.append_assoc, lines_line_append (by decide),
    lines_line_append hclause]

/-- Below an empty command line, the lines of the remainder are those of the sections. -/
theorem header_cons_lines {kind : Kind} {name : String} {values : List String} {acceptEmpty : Bool}
    {rest : String} (hkind : kind.IsListed) (h : Naming.Compatible name kind values)
    (hrest : remainder? ⟨kind, name, values⟩ acceptEmpty = some rest) :
    ∃ sections, Listing.sections? ⟨"", ⟨kind, name, values⟩, acceptEmpty⟩ = some sections ∧
      header "" :: lines rest = fileLines sections ++ [""] := by
  have hrender : Listing.render? ⟨"", ⟨kind, name, values⟩, acceptEmpty⟩ =
      some (header "" ++ "\n" ++ rest) := by
    rw [render?_eq, hrest]
    rfl
  obtain ⟨body, hbody, htext⟩ := Option.map_eq_some_iff.mp hrender
  obtain ⟨sections, hsections, rfl⟩ := Option.map_eq_some_iff.mp hbody
  refine ⟨sections, hsections, ?_⟩
  have hline : OneLine "" := by decide
  have hlines : lines (endLine (fileText sections)) = fileLines sections ++ [""] := by
    cases kind with
    | string =>
      rw [StringEnum.eq_sections_of_sections? hsections]
      exact lines_string hline h acceptEmpty
    | int backing =>
      obtain rfl := Option.some.inj hsections
      exact lines_integer hline hkind h acceptEmpty
  rw [← hlines, htext, lines_line_append (by decide)]

/-! ### One line -/

theorem oneLine_intercalate {separator : String} (hseparator : OneLine separator)
    {pieces : List String} (h : ∀ piece ∈ pieces, OneLine piece) :
    OneLine (separator.intercalate pieces) := by
  induction pieces with
  | nil => simp [OneLine]
  | cons piece pieces ih =>
    obtain ⟨hpiece, hpieces⟩ := List.forall_mem_cons.mp h
    by_cases hnil : pieces = []
    · simpa [hnil] using hpiece
    · rw [String.intercalate_cons_of_ne_nil hnil]
      simp [hpiece, hseparator, ih hpieces]

theorem oneLine_quoteWord (s : String) : OneLine (Shell.quoteWord s) := by
  intro hmem
  rw [Shell.quoteWord, String.toList_ofList] at hmem
  exact absurd (Shell.isLineBreak_quoteChars _ hmem) (by decide)

/-- Only the program's name can break a command line. -/
theorem oneLine_commandLine_iff {program : String} {arguments : List String} :
    OneLine (Shell.commandLine program arguments) ↔ OneLine program := by
  have hwords : OneLine (" ".intercalate (arguments.map Shell.quoteWord)) := by
    apply oneLine_intercalate (by decide)
    intro word hword
    obtain ⟨s, -, rfl⟩ := List.mem_map.mp hword
    exact oneLine_quoteWord s
  unfold Shell.commandLine
  by_cases hnil : arguments.map Shell.quoteWord = []
  · rw [hnil, String.intercalate_singleton]
  · rw [String.intercalate_cons_of_ne_nil hnil]
    simp +decide [hwords]

theorem oneLine_header_iff {commandLine : String} :
    OneLine (header commandLine) ↔ OneLine commandLine := by
  have hopening : OneLine "// Code generated by " := by decide
  have hclosing : OneLine "; DO NOT EDIT." := by decide
  unfold header
  rw [oneLine_append, oneLine_append]
  simp only [hopening, hclosing, true_and, and_true]

/-- Whether the first lines of a text are the header for a command line, all of it, an empty line
and a package clause. -/
structure IsMarked (text commandLine package : String) : Prop where
  /-- The command line stands in the first line, and no part of it elsewhere. -/
  first : (lines text)[0]? = some (header commandLine)
  /-- Nothing else belongs to the comment. -/
  second : (lines text)[1]? = some ""
  /-- The source text begins. -/
  third : (lines text)[2]? = some ("package " ++ package)

/-- A text is marked in its first line just when the command line stays on one line. -/
theorem isMarked_iff {commandLine : String} {enumeration : Enumeration} {acceptEmpty : Bool}
    {text : String} (hname : OneLine enumeration.name)
    (h : Listing.render? ⟨commandLine, enumeration, acceptEmpty⟩ = some text) :
    IsMarked text commandLine (Naming.packageName enumeration.name) ↔ OneLine commandLine := by
  rw [← oneLine_header_iff]
  constructor
  · intro hmarked
    exact oneLine_of_mem_lines (List.mem_of_getElem? hmarked.first)
  · intro hheader
    rw [render?_eq, Option.map_eq_some_iff] at h
    obtain ⟨rest, hrest, rfl⟩ := h
    obtain ⟨after, hafter⟩ := lines_remainder? hname hrest
    have hlines := lines_line_append hheader rest
    rw [hafter] at hlines
    constructor <;> rw [hlines] <;> rfl

/-! ### Generated files -/

/-- Whether a run of `generate` for accepted arguments keeps the marker of the file it writes on
one line depends on the program's name in the settings alone. In any case the file is the header,
a line feed, and a remainder that is the same for every command line. -/
theorem marksFirstLine {target : Path} {acceptEmpty : Bool} {positional arguments : List String}
    {request : Request} {settings : Settings} {world after : Disk.World} {path : Path}
    (haccepted : Request.ofArguments target acceptEmpty positional = .ok request)
    (hrun : Yields (Generation.generate settings request arguments) world path after) :
    ∃ text rest, Generation.Written after path text ∧
      text = header (Shell.commandLine settings.programName arguments) ++ "\n" ++ rest ∧
      (∀ other, Listing.render? ⟨other, request.enumeration, acceptEmpty || settings.acceptEmpty⟩ =
        some (header other ++ "\n" ++ rest)) ∧
      (IsMarked text (Shell.commandLine settings.programName arguments) request.packageName ↔
        OneLine settings.programName) := by
  obtain ⟨-, text, hrender, hwritten⟩ := Generation.generate_written hrun
  obtain ⟨token, name, kind, values, -, -, -, hcompatible, rfl⟩ :=
    Request.ofArguments_eq_ok_iff.mp haccepted
  have hname : OneLine name := Lexeme.oneLine_of_isIdentifier hcompatible.isIdentifier_name
  have hmarked : IsMarked text (Shell.commandLine settings.programName arguments)
      (Naming.packageName name) ↔ OneLine settings.programName :=
    (isMarked_iff hname hrender).trans oneLine_commandLine_iff
  rw [Generation.listingOf, Request.listing, render?_eq, Option.map_eq_some_iff] at hrender
  obtain ⟨rest, hrest, rfl⟩ := hrender
  refine ⟨_, rest, hwritten, rfl, fun other => ?_, hmarked⟩
  rw [render?_eq, hrest]
  rfl

theorem marksFirstLine_color : ∃ request after text rest,
    Request.ofArguments ⟨Path.dot⟩ false ["string", "Color", "Red"] = .ok request ∧
    Yields (Generation.generate ⟨"go-enum", false⟩ request ["string", "Color", "Red"])
      Disk.World.fresh request.outputFile after ∧
    Generation.Written after request.outputFile text ∧
    text = header (Shell.commandLine "go-enum" ["string", "Color", "Red"]) ++ "\n" ++ rest ∧
    (∀ other, Listing.render? ⟨other, request.enumeration, false⟩ =
      some (header other ++ "\n" ++ rest)) ∧
    (IsMarked text (Shell.commandLine "go-enum" ["string", "Color", "Red"]) request.packageName ↔
      OneLine "go-enum") := by
  have haccepted : Request.ofArguments ⟨Path.dot⟩ false ["string", "Color", "Red"] =
      .ok ⟨⟨Path.dot⟩, false, ⟨.string, "Color", ["Red"]⟩⟩ := by decide
  obtain ⟨after, hrun⟩ : ∃ after, Yields (Generation.generate ⟨"go-enum", false⟩
      ⟨⟨Path.dot⟩, false, ⟨.string, "Color", ["Red"]⟩⟩ ["string", "Color", "Red"])
      Disk.World.fresh _ after := ⟨_, rfl⟩
  obtain ⟨text, rest, h⟩ := marksFirstLine haccepted hrun
  exact ⟨_, _, text, rest, haccepted, hrun, h⟩

/-- With a line feed in the program's name, the second line is the rest of the command line, as
source text. -/
theorem not_isMarked_lineFeed : ∃ settings request after text,
    Settings.parse (Text.Utf8.encode "\x7b\"app_name\": \"go\\nenum\"\x7d") = .ok settings ∧
    Request.ofArguments ⟨Path.dot⟩ false ["string", "Color", "Red"] = .ok request ∧
    Yields (Generation.generate settings request ["string", "Color", "Red"])
      Disk.World.fresh request.outputFile after ∧
    Generation.Written after request.outputFile text ∧
    (lines text).take 3 = ["// Code generated by go", "enum string Color Red; DO NOT EDIT.", ""] ∧
    ¬IsMarked text (Shell.commandLine settings.programName ["string", "Color", "Red"])
      request.packageName := by
  have hsettings : Settings.parse (Text.Utf8.encode "\x7b\"app_name\": \"go\\nenum\"\x7d") =
      .ok ⟨"go\nenum", false⟩ := by decide +kernel
  have haccepted : Request.ofArguments ⟨Path.dot⟩ false ["string", "Color", "Red"] =
      .ok ⟨⟨Path.dot⟩, false, ⟨.string, "Color", ["Red"]⟩⟩ := by decide
  obtain ⟨after, hrun⟩ : ∃ after, Yields (Generation.generate ⟨"go\nenum", false⟩
      ⟨⟨Path.dot⟩, false, ⟨.string, "Color", ["Red"]⟩⟩ ["string", "Color", "Red"])
      Disk.World.fresh _ after := ⟨_, rfl⟩
  obtain ⟨-, text, hrender, hwritten⟩ := Generation.generate_written hrun
  have hlines : (lines text).take 3 =
      ["// Code generated by go", "enum string Color Red; DO NOT EDIT.", ""] := by
    have hlisting : Generation.listingOf ⟨"go\nenum", false⟩
        ⟨⟨Path.dot⟩, false, ⟨.string, "Color", ["Red"]⟩⟩ ["string", "Color", "Red"] =
          ⟨Shell.commandLine "go\nenum" ["string", "Color", "Red"],
            ⟨.string, "Color", ["Red"]⟩, false⟩ := rfl
    have hheader : header (Shell.commandLine "go\nenum" ["string", "Color", "Red"]) =
        "// Code generated by go" ++ "\n" ++ "enum string Color Red; DO NOT EDIT." := by
      decide
    rw [hlisting, render?_eq, Option.map_eq_some_iff] at hrender
    obtain ⟨rest, hrest, rfl⟩ := hrender
    obtain ⟨after, hafter⟩ := lines_remainder? (show OneLine "Color" by decide) hrest
    -- The line feed of the name ends the comment, and the line feed of the header the line after.
    have htext : header (Shell.commandLine "go\nenum" ["string", "Color", "Red"]) ++ "\n" ++ rest =
        "// Code generated by go" ++ "\n" ++
          ("enum string Color Red; DO NOT EDIT." ++ "\n" ++ rest) := by
      rw [hheader]
      simp only [String.append_assoc]
    rw [htext, lines_line_append (by decide), lines_line_append (by decide), hafter]
    rfl
  refine ⟨_, _, _, text, hsettings, haccepted, hrun, hwritten, hlines, fun hmarked => ?_⟩
  have hsecond := hmarked.second
  rw [← List.getElem?_take_of_lt (show 1 < 3 by decide), hlines] at hsecond
  exact absurd hsecond (by decide)

end GoEnum.Source

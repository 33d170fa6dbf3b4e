/-
  The layout of generated files.

  A file ends with one line feed, no line ends in a gap, and no two empty lines
  follow each other (`IsLaidOut`). All of this is read off the sections: none is
  empty, none has an empty line, and each line ends in a character that leaves no
  gap (`isLaidOut_of_lines`). Blanks stand in a row where constants are padded, and
  nowhere else but in the first line, which the recorded arguments are part of.
-/
import GoEnum.Proofs.Generation.Rendered
import GoEnum.Proofs.Source.Marker
import GoEnum.Proofs.Source.Reading
import GoEnum.Proofs.Source.TidyLines
import Mathlib.Data.List.Chain

namespace GoEnum.Source

open Text Naming

/-! ### Layout -/

/-- The lines in which nothing is aligned: those outside the const block, if it has strings. -/
def unalignedLines : Kind → List String → List String
  | .string, ls => outside "const (" ")" ls
  | .int _, ls => ls

/-- Whether the text of an enumeration of some kind is laid out as a formatter would leave it. -/
structure IsLaidOut (kind : Kind) (text : String) : Prop where
  /-- There is a line feed at the end, and no other before it. -/
  ending : ∃ body, text = body ++ "\n" ∧ body.toList.getLast? ≠ some '\n'
  /-- No line ends in a gap. -/
  trimmed : ∀ l ∈ lines text, ∀ c ∈ l.toList.getLast?, c ∉ [' ', '\t', '\r']
  /-- No two empty lines follow each other. -/
  separated : ¬["", ""] <:+: lines text
  /-- Behind the first line, and unless something is aligned, there are no two blanks in a row. -/
  single : ∀ l ∈ (unalignedLines kind (lines text)).tail, ¬[' ', ' '] <:+: l.toList

/-! ### Ends of lines -/

/-- Whether a line ends in a character that leaves no gap. -/
def EndsWithoutGap (l : String) : Prop :=
  l.toList.getLast?.any (!leavesGap ·) = true

instance : DecidablePred EndsWithoutGap := fun l =>
  inferInstanceAs (Decidable (l.toList.getLast?.any (!leavesGap ·) = true))

theorem endsWithoutGap_iff {l : String} :
    EndsWithoutGap l ↔ ∃ c, l.toList.getLast? = some c ∧ leavesGap c = false := by
  simp [EndsWithoutGap, Option.any_eq_true]

theorem EndsWithoutGap.ne_empty {l : String} (h : EndsWithoutGap l) : l ≠ "" := by
  rintro rfl
  exact absurd h (by decide)

theorem endsWithoutGap_of_isTidy {l : String} (h : IsTidy l) : EndsWithoutGap l := by
  have hne : l.toList ≠ [] := by simpa using h.ne_empty
  have hlast := List.getLast?_eq_some_getLast hne
  exact endsWithoutGap_iff.mpr ⟨_, hlast, h.leavesGap_getLast? _ hlast⟩

/-- How a line ends does not hang on how it starts. -/
theorem endsWithoutGap_append (s : String) {t : String} (h : EndsWithoutGap t) :
    EndsWithoutGap (s ++ t) := by
  have hne : t.toList ≠ [] := by simpa using h.ne_empty
  rw [EndsWithoutGap, String.toList_append, List.getLast?_append_of_ne_nil _ hne]
  exact h

theorem endsWithoutGap_marker (commandLine : String) :
    ∀ l ∈ marker commandLine, EndsWithoutGap l := by
  intro l hl
  rw [List.mem_singleton.mp hl]
  exact endsWithoutGap_append _ (by decide)

/-- A literal ends in a quote. -/
theorem endsWithoutGap_literal (s : String) : EndsWithoutGap (Lexeme.literal s) := by
  rw [EndsWithoutGap, Lexeme.literal, String.toList_ofList, Lexeme.literalChars, ← List.cons_append,
    List.getLast?_concat]
  rfl

/-! ### Empty lines -/

/-- Between sections, there is one empty line each, and one after the last. -/
theorem fileLines_append_empty {sections : List (List String)} (h : sections ≠ []) :
    fileLines sections ++ [""] = sections.flatMap (· ++ [""]) := by
  obtain ⟨before, s, rfl⟩ := (List.eq_nil_or_concat' sections).resolve_left h
  rw [fileLines_append_cons, List.flatMap_append]
  simp

/-- One of two lines is not empty, if they follow each other in a file. -/
theorem isChain_sections {sections : List (List String)} (h : ∀ s ∈ sections, s ≠ [] ∧ "" ∉ s) :
    List.IsChain (fun l k => l ≠ "" ∨ k ≠ "") (sections.flatMap (· ++ [""])) := by
  have hlines : ∀ s ∈ sections, ∀ l ∈ s, l ≠ "" := fun s hs l hl heq => (h s hs).2 (heq ▸ hl)
  rw [List.flatMap_def, List.isChain_flatten (by simp)]
  constructor
  · intro _ hsection
    obtain ⟨s, hs, rfl⟩ := List.mem_map.mp hsection
    refine List.isChain_append.mpr ⟨List.Pairwise.isChain ?_, List.isChain_singleton _, ?_⟩
    · exact List.pairwise_of_forall_mem_list fun l hl _ _ => Or.inl (hlines s hs l hl)
    · exact fun l hl _ _ => Or.inl (hlines s hs l (List.mem_of_getLast? hl))
  · -- What follows the empty line of a section is the first line of another.
    refine List.Pairwise.isChain (List.pairwise_of_forall_mem_list fun _ _ _ hsection => ?_)
    obtain ⟨s, hs, rfl⟩ := List.mem_map.mp hsection
    intro _ _ l hl
    rw [List.head?_append_of_ne_nil _ (h s hs).1] at hl
    exact Or.inr (hlines s hs l (List.mem_of_mem_head? hl))

theorem not_consecutive_empty {sections : List (List String)} (hne : sections ≠ [])
    (h : ∀ s ∈ sections, s ≠ [] ∧ "" ∉ s) : ¬["", ""] <:+: fileLines sections ++ [""] := by
  rintro ⟨front, back, hsplit⟩
  have hchain := isChain_sections h
  rw [← fileLines_append_empty hne, ← hsplit] at hchain
  simpa using hchain.left_of_append.right_of_append

/-! ### Files -/

/-- What is asked of the sections for the layout of the text: each has lines, and these end well;
and where nothing is aligned, the lines after the first are tidy or empty. -/
theorem isLaidOut_of_lines {kind : Kind} {text : String} {sections : List (List String)}
    (hne : sections ≠ []) (hlines : lines text = fileLines sections ++ [""])
    (hending : ∃ body, text = body ++ "\n" ∧ body.toList.getLast? ≠ some '\n')
    (hsections : ∀ s ∈ sections, s ≠ [] ∧ ∀ l ∈ s, EndsWithoutGap l)
    (htidy : ∀ l ∈ (unalignedLines kind (lines text)).tail, l = "" ∨ IsTidy l) :
    IsLaidOut kind text := by
  refine ⟨hending, ?trimmed, ?separated, ?single⟩
  case trimmed =>
    intro l hl c hc
    rw [hlines, List.mem_append, List.mem_singleton] at hl
    have hgap : leavesGap c = false := by
      have hfile : l ∈ fileLines sections → l = "" ∨ ∃ s ∈ sections, l ∈ s := mem_fileLines
      rcases hl.imp_left hfile with (rfl | ⟨s, hs, hmem⟩) | rfl
      · simp at hc
      · obtain ⟨d, hlast, hd⟩ := endsWithoutGap_iff.mp ((hsections s hs).2 l hmem)
        rwa [Option.some.inj (hc.symm.trans hlast)]
      · simp at hc
    intro hmem
    have hgaps : [' ', '\t', '\r'].all leavesGap = true := by decide
    exact Bool.noConfusion (hgap.symm.trans (List.all_eq_true.mp hgaps c hmem))
  case separated =>
    rw [hlines]
    refine not_consecutive_empty hne fun s hs => ⟨(hsections s hs).1, fun hempty => ?_⟩
    exact ((hsections s hs).2 "" hempty).ne_empty rfl
  case single =>
    intro l hl
    rcases htidy l hl with rfl | htidy
    · decide
    · exact htidy.not_consecutive_blanks

theorem ending_of_endLine {s : String} (h : endLine s = s ++ "\n") :
    ∃ body, endLine s = body ++ "\n" ∧ body.toList.getLast? ≠ some '\n' := by
  refine ⟨s, h, fun hlast => ?_⟩
  rw [endLine, if_pos hlast] at h
  have hlength := congrArg String.length h
  simp at hlength

theorem eq_empty_or_isTidy {commandLine : String} {after : List (List String)}
    (h : ∀ s ∈ after, AreTidy s) :
    ∀ l ∈ (fileLines (marker commandLine :: after) ++ [""]).tail, l = "" ∨ IsTidy l := by
  intro l hl
  rw [fileLines_cons, marker, List.singleton_append, List.cons_append, List.tail_cons,
    List.mem_append, List.mem_singleton, List.mem_flatMap] at hl
  rcases hl with ⟨s, hs, hl⟩ | rfl
  · exact (List.mem_cons.mp hl).imp_right (h s hs l)
  · exact Or.inl rfl

section

variable {commandLine name : String} {values : List String}

/-! ### Integer enumerations -/

theorem IntegerEnum.ne_nil_of_mem_sections {backing : Option String} {acceptEmpty : Bool} :
    ∀ s ∈ sections commandLine name backing acceptEmpty values, s ≠ [] := by
  rw [sections, List.forall_mem_append]
  constructor
  · simp only [List.forall_mem_cons, List.not_mem_nil, false_implies, implies_true, and_true]
    and_intros <;> exact List.cons_ne_nil _ _
  · cases backing with
    | none => simp [conversions]
    | some backing => simp [conversions, backingDeclaration, fromDeclaration]

theorem isLaidOut_integer {backing : Option String} (hline : OneLine commandLine)
    (hbacking : (Kind.int backing).IsListed) (h : Compatible name (.int backing) values)
    (acceptEmpty : Bool) : IsLaidOut (.int backing) (endLine (fileText
      (IntegerEnum.sections commandLine name backing acceptEmpty values))) := by
  have htext := lines_integer hline hbacking h acceptEmpty
  have htidy := IntegerEnum.areTidy_sections (areWords h) hbacking commandLine acceptEmpty
  have hcons : IntegerEnum.sections commandLine name backing acceptEmpty values =
      marker commandLine ::
        (IntegerEnum.sections commandLine name backing acceptEmpty values).tail := rfl
  obtain ⟨s, hs, hlast⟩ :=
    IntegerEnum.exists_getLast?_sections commandLine name backing acceptEmpty values
  refine isLaidOut_of_lines (List.ne_nil_of_mem (List.mem_of_getLast? hs)) htext
    (ending_of_endLine (endLine_fileText hs hlast (by decide) (by decide))) ?sections ?tidy
  case sections =>
    intro s hs
    refine ⟨IntegerEnum.ne_nil_of_mem_sections s hs, ?_⟩
    rw [hcons] at hs
    rcases List.mem_cons.mp hs with rfl | hs
    · exact endsWithoutGap_marker commandLine
    · exact fun l hl => endsWithoutGap_of_isTidy (htidy s hs l hl)
  case tidy =>
    rw [unalignedLines, htext, hcons]
    exact eq_empty_or_isTidy htidy

/-! ### String enumerations -/

namespace StringEnum

theorem ne_nil_of_mem_sections {acceptEmpty : Bool} :
    ∀ s ∈ sections commandLine name acceptEmpty values, s ≠ [] := by
  simp only [sections, List.forall_mem_cons, List.not_mem_nil, false_implies, implies_true,
    and_true]
  and_intros <;> exact List.cons_ne_nil _ _

theorem endsWithoutGap_constantGroup (name : String) (width : Nat) (values : List String) :
    ∀ l ∈ group "const" (values.map (constantLine name width)), EndsWithoutGap l := by
  intro l hl
  rw [group, enclosed, indent, List.map_map, List.mem_cons, List.mem_append,
    List.mem_singleton] at hl
  rcases hl with rfl | hl | rfl
  · decide
  · obtain ⟨value, -, rfl⟩ := List.mem_map.mp hl
    exact endsWithoutGap_append _ (endsWithoutGap_append _ (endsWithoutGap_literal value))
  · decide

/-- Without the constants, the lines of the file are those of a file with an empty block. -/
theorem outside_lines (commandLine name : String) (body : List String)
    (after : List (List String)) :
    outside "const (" ")" (fileLines (preamble commandLine name "a string-backed" "string" ++
        group "const" body :: after) ++ [""]) =
      fileLines (preamble commandLine name "a string-backed" "string" ++
        group "const" [] :: after) ++ [""] := by
  have hopen : "const (" ∉
      (preamble commandLine name "a string-backed" "string").flatMap (· ++ [""]) := by
    intro hmem
    obtain ⟨s, hs, hmem⟩ := List.mem_flatMap.mp hmem
    rw [List.mem_append, List.mem_singleton] at hmem
    rcases hmem with hmem | heq
    · exact not_mem_preamble (by decide) _ _ _ _ s hs hmem
    · exact absurd heq (by decide)
  have hclose : ")" ∉ indent body := not_mem_indent (by decide) body
  have hcut := outside_eq hopen hclose (after.flatMap ("" :: ·) ++ [""])
  rw [fileLines_append_cons, fileLines_append_cons]
  simpa [group, enclosed, indent] using hcut

end StringEnum

theorem isLaidOut_string (hline : OneLine commandLine) (hne : values ≠ [])
    (h : Compatible name .string values) (acceptEmpty : Bool) :
    IsLaidOut .string (endLine (fileText
      (StringEnum.sections commandLine name acceptEmpty values))) := by
  have htext := lines_string hline h acceptEmpty
  have hwords := areWords h
  have hafter := StringEnum.areTidy_sectionsAfterBlock hwords hne acceptEmpty
  have hbefore : ∀ s ∈ [packageClause name, importGroup,
      typeDeclaration name "a string-backed" "string"], AreTidy s := by
    simp only [List.forall_mem_cons, List.not_mem_nil, false_implies, implies_true, and_true]
    exact ⟨areTidy_packageClause hwords, areTidy_importGroup,
      areTidy_typeDeclaration hwords (by decide) (by decide)⟩
  have hparts : StringEnum.sections commandLine name acceptEmpty values =
      preamble commandLine name "a string-backed" "string" ++
        group "const" (values.map (StringEnum.constantLine name (StringEnum.constantWidth values)))
          :: StringEnum.sectionsAfterBlock name acceptEmpty values := rfl
  have hlast := StringEnum.getLast?_sections commandLine name acceptEmpty values
  refine isLaidOut_of_lines (List.ne_nil_of_mem (List.mem_of_getLast? hlast)) htext
    (ending_of_endLine (endLine_fileText hlast getLast?_unmarshalDeclaration (by decide)
      (by decide))) ?sections ?tidy
  case sections =>
    intro s hs
    refine ⟨StringEnum.ne_nil_of_mem_sections s hs, ?_⟩
    rw [hparts] at hs
    rcases List.mem_append.mp hs with hs | hs
    · rcases List.mem_cons.mp hs with rfl | hs
      · exact endsWithoutGap_marker commandLine
      · exact fun l hl => endsWithoutGap_of_isTidy (hbefore s hs l hl)
    · rcases List.mem_cons.mp hs with rfl | hs
      · exact StringEnum.endsWithoutGap_constantGroup name _ values
      · exact fun l hl => endsWithoutGap_of_isTidy (hafter s hs l hl)
  case tidy =>
    rw [unalignedLines, htext, hparts, StringEnum.outside_lines]
    refine eq_empty_or_isTidy (List.forall_mem_append.mpr ⟨hbefore, ?_⟩)
    exact List.forall_mem_cons.mpr ⟨by decide, hafter⟩

end

/-! ### Generated files -/

/-- The text for an accepted request whose constants can be padded is laid out as a formatter would
leave it, whichever arguments are recorded in it and whether or not the empty text is accepted, if
the program's name stays on one line. -/
theorem accepted_isLaidOut {target : Path} {acceptEmpty : Bool} {positional : List String}
    {request : Request} {program : String}
    (haccepted : Request.ofArguments target acceptEmpty positional = .ok request)
    (hpaddable : request.enumeration.IsPaddable) (hprogram : OneLine program)
    (arguments : List String) (flag : Bool) :
    ∃ text, Listing.render? ⟨Shell.commandLine program arguments, request.enumeration, flag⟩ =
        some text ∧ IsLaidOut request.enumeration.kind text := by
  obtain ⟨token, name, kind, values, -, hne, hkind, hcompatible, rfl⟩ :=
    Request.ofArguments_eq_ok_iff.mp haccepted
  have hline : OneLine (Shell.commandLine program arguments) := oneLine_commandLine_iff.mpr hprogram
  cases kind with
  | string =>
    exact ⟨_, StringEnum.render?_eq_some (hpaddable rfl) _ name flag,
      isLaidOut_string hline hne hcompatible flag⟩
  | int backing =>
    exact ⟨_, rfl, isLaidOut_integer hline (Kind.isListed_of_parse hkind) hcompatible flag⟩

/-- The recorded arguments may have blanks in a row and line feeds. -/
theorem accepted_isLaidOut_color : ∃ request text,
    Request.ofArguments ⟨Path.dot⟩ false ["string", "Color", "red", "Blue"] = .ok request ∧
    Listing.render? ⟨Shell.commandLine "go  enum" ["string", "a  b\n"], request.enumeration, true⟩ =
      some text ∧ IsLaidOut .string text := by
  have haccepted : Request.ofArguments ⟨Path.dot⟩ false ["string", "Color", "red", "Blue"] =
      .ok ⟨⟨Path.dot⟩, false, ⟨.string, "Color", ["red", "Blue"]⟩⟩ := by decide
  have hpaddable : (Enumeration.mk .string "Color" ["red", "Blue"]).IsPaddable := by
    intro _
    decide
  have hprogram : OneLine "go  enum" := by decide
  obtain ⟨text, hrender, hlaidOut⟩ :=
    accepted_isLaidOut haccepted hpaddable hprogram ["string", "a  b\n"] true
  exact ⟨_, text, haccepted, hrender, hlaidOut⟩

end GoEnum.Source

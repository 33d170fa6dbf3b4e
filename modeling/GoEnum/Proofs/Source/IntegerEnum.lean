/-
  The lines of the file of an integer enumeration.

  For a name and values that can be used together and a command line without line
  feeds, no line of any section holds a line feed. So the lines of the text are
  those of the sections, and what the file declares can be read off its text.
-/
import GoEnum.Proofs.Naming.Check
import GoEnum.Proofs.Source.Declarations
import GoEnum.Source.IntegerEnum

namespace GoEnum.Source

open Text Naming

namespace IntegerEnum

variable {name : String} {values : List String}

theorem areLines_constantLines (hname : OneLine name)
    (hvalues : AreLines (values.map constant)) : AreLines (constantLines name values) := by
  cases values with
  | nil => simp [constantLines]
  | cons value values =>
    unfold OneLine at hname
    obtain ⟨hvalue, hvalues⟩ : '\n' ∉ (constant value).toList ∧ AreLines (values.map constant) := by
      simpa [OneLine] using hvalues
    simp [constantLines, OneLine, hname, hvalue, hvalues]

theorem areLines_tableDeclaration (hname : OneLine name) :
    AreLines (tableDeclaration name values) := by
  have hpackage : OneLine (packageName name) := oneLine_lowercase hname
  unfold OneLine at hpackage
  simp [tableDeclaration, namesTable, OneLine, hpackage, areLines_literals]

theorem areLines_stringDeclaration (hname : OneLine name) :
    AreLines (stringDeclaration name) := by
  have hreceiver := oneLine_receiver hname
  have hpackage : OneLine (packageName name) := oneLine_lowercase hname
  unfold OneLine at hname hreceiver hpackage
  simp [stringDeclaration, method, guardValid, tableEntry, namesTable, OneLine, hname, hreceiver,
    hpackage]

theorem areLines_validityDeclaration (hname : OneLine name) :
    AreLines (validityDeclaration name) := by
  have hreceiver := oneLine_receiver hname
  have hpackage : OneLine (packageName name) := oneLine_lowercase hname
  unfold OneLine at hname hreceiver hpackage
  unfold validityDeclaration validityComment method namesTable
  simp [OneLine, hname, hreceiver, hpackage]

theorem areLines_parseCases (acceptEmpty : Bool) (hvalues : AreLines (values.map constant)) :
    ∀ c ∈ parseCases acceptEmpty values, OneLine c.1 ∧ AreLines c.2 := by
  have hcase : ∀ (value more : String), OneLine (constant value) → OneLine more →
      OneLine (parseCase more value).1 ∧ AreLines (parseCase more value).2 := by
    intro value more hvalue hmore
    have hliteral := Lexeme.oneLine_literal value
    unfold OneLine at hvalue
    simp only [parseCase, oneLine_append, hliteral, hmore, true_and]
    simp [OneLine, hvalue]
  cases values with
  | nil => simp [parseCases]
  | cons value values =>
    intro c hc
    rcases List.mem_cons.mp hc with rfl | hc
    · refine hcase value _ (hvalues _ (by simp)) ?_
      cases acceptEmpty <;> decide
    · obtain ⟨v, hv, rfl⟩ := List.mem_map.mp hc
      exact hcase v "" (hvalues _ (by simp [List.mem_map_of_mem hv])) (by decide)

theorem areLines_parseDeclaration (hname : OneLine name) (acceptEmpty : Bool)
    (hvalues : AreLines (values.map constant)) :
    AreLines (parseDeclaration name acceptEmpty values) := by
  have hcomment := areLines_parseComment hname acceptEmpty
  have hswitch : AreLines (switchOn "s" (parseCases acceptEmpty values)) :=
    areLines_switchOn (by decide) (areLines_parseCases acceptEmpty hvalues)
  unfold OneLine at hname
  unfold parseDeclaration parseHeader parseFunction invalidValue invalidError
  simp [OneLine, hcomment, hswitch, hname]

theorem areLines_conversions (hname : OneLine name) {backing : Option String}
    (hbacking : (Kind.int backing).IsListed) :
    ∀ s ∈ conversions name backing, AreLines s := by
  cases backing with
  | none => simp [conversions]
  | some backing =>
    obtain ⟨htype, hmethod⟩ := oneLine_integerTypes backing hbacking
    have hreceiver := oneLine_receiver hname
    unfold OneLine at hname hreceiver htype hmethod
    unfold conversions backingDeclaration fromDeclaration fromFunction method guardValid
      invalidValue invalidError
    simp [OneLine, hname, hreceiver, htype, hmethod]

theorem areLines_sections {commandLine : String} {backing : Option String}
    (hline : OneLine commandLine) (hbacking : (Kind.int backing).IsListed)
    (h : Compatible name (.int backing) values) (acceptEmpty : Bool) :
    ∀ s ∈ sections commandLine name backing acceptEmpty values, AreLines s := by
  have hname := Lexeme.oneLine_of_isIdentifier h.isIdentifier_name
  have hvalues := areLines_constants h.identifiers
  have hconstants := areLines_constantLines hname hvalues
  have hreceiver := oneLine_receiver hname
  have hentry : OneLine (tableEntry name) := by
    have hpackage : OneLine (packageName name) := oneLine_lowercase hname
    simp +decide [tableEntry, namesTable, hpackage, hreceiver]
  have hunder : OneLine (Kind.int backing).goType := by
    cases backing with
    | none => decide
    | some backing => exact (oneLine_integerTypes backing hbacking).1
  obtain ⟨hmarker, hpackage, himports⟩ := areLines_preamble hline hname
  unfold sections
  rw [List.forall_mem_append]
  refine ⟨?_, areLines_conversions hname hbacking⟩
  simp only [List.forall_mem_cons, List.not_mem_nil, false_implies, implies_true, and_true]
  exact ⟨hmarker, hpackage, himports, areLines_typeDeclaration hname (by decide) hunder,
    (areLines_group _ _).mpr ⟨by decide, hconstants⟩, areLines_tableDeclaration hname,
    areLines_errorDeclaration hname (by decide), areLines_valuesDeclaration hname hvalues,
    areLines_stringDeclaration hname, areLines_validityDeclaration hname,
    areLines_parseDeclaration hname acceptEmpty hvalues,
    areLines_marshalDeclaration hname (by decide) hreceiver hentry,
    areLines_unmarshalDeclaration hname⟩

/-- The file ends with a closing brace: that of the last method, or of the conversion from the
integer type. -/
theorem exists_getLast?_sections (commandLine name : String) (backing : Option String)
    (acceptEmpty : Bool) (values : List String) :
    ∃ s, (sections commandLine name backing acceptEmpty values).getLast? = some s ∧
      s.getLast? = some "\x7d" := by
  cases backing with
  | none =>
    refine ⟨unmarshalDeclaration name, ?_, getLast?_unmarshalDeclaration⟩
    simp [sections, conversions]
  | some backing =>
    refine ⟨fromDeclaration name backing, ?_, ?_⟩
    · simp [sections, conversions]
    · simp [fromDeclaration, List.getLast?_cons]

end IntegerEnum

/-- The lines of the file of an integer enumeration are those of its sections, and an empty one. -/
theorem lines_integer {commandLine name : String} {backing : Option String} {values : List String}
    (hline : OneLine commandLine) (hbacking : (Kind.int backing).IsListed)
    (h : Compatible name (.int backing) values) (acceptEmpty : Bool) :
    lines (endLine (fileText
        (IntegerEnum.sections commandLine name backing acceptEmpty values))) =
      fileLines (IntegerEnum.sections commandLine name backing acceptEmpty values) ++ [""] := by
  obtain ⟨s, hs, hlast⟩ :=
    IntegerEnum.exists_getLast?_sections commandLine name backing acceptEmpty values
  exact lines_endLine_fileText (IntegerEnum.areLines_sections hline hbacking h acceptEmpty) hs hlast
    (by decide)

end GoEnum.Source

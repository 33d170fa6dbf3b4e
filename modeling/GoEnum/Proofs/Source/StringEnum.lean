/-
  The lines of the file of a string enumeration.

  The file exists if no constant is too long to be padded, and then each line of
  the const block has the constant padded to the greatest length
  (`sections?_eq_some`). For a name and values that can be used together and a
  command line without line feeds, no line of any section holds a line feed.
-/
import GoEnum.Proofs.Naming.Check
import GoEnum.Proofs.Source.Declarations
import GoEnum.Source.StringEnum

namespace GoEnum.Source

open Text Naming

namespace StringEnum

/-! ### The const block -/

/-- The line of the const block for one value. -/
def constantLine (name : String) (width : Nat) (value : String) : String :=
  constant value ++ String.ofList (List.replicate (width - (constant value).length) ' ') ++ " "
    ++ name ++ " = " ++ Lexeme.literal value

theorem constantLine?_eq_some {width : Nat} (h : width ≤ maxWidth) (name value : String) :
    constantLine? name width value = some (constantLine name width value) := by
  simp [constantLine?, padRight?, h, constantLine]

theorem foldl_max_le {ns : List Nat} {bound : Nat} : ∀ {start : Nat}, start ≤ bound →
    (∀ n ∈ ns, n ≤ bound) → ns.foldl max start ≤ bound := by
  induction ns with
  | nil => intro start hstart _; exact hstart
  | cons n ns ih =>
    intro start hstart h
    obtain ⟨hn, hns⟩ := List.forall_mem_cons.mp h
    exact ih (Nat.max_le.mpr ⟨hstart, hn⟩) hns

theorem constantWidth_le {values : List String} {bound : Nat}
    (h : ∀ value ∈ values, (constant value).length ≤ bound) : constantWidth values ≤ bound := by
  apply foldl_max_le (Nat.zero_le bound)
  intro n hn
  obtain ⟨value, hvalue, rfl⟩ := List.mem_map.mp hn
  exact h value hvalue

theorem le_foldl_max {ns : List Nat} : ∀ {start n : Nat}, n ≤ start ∨ n ∈ ns →
    n ≤ ns.foldl max start := by
  induction ns with
  | nil => intro start n h; simpa using h
  | cons m ns ih =>
    intro start n h
    apply ih
    rcases h with h | h
    · exact Or.inl (Nat.le_trans h (Nat.le_max_left _ _))
    · rcases List.mem_cons.mp h with rfl | h
      · exact Or.inl (Nat.le_max_right _ _)
      · exact Or.inr h

theorem le_constantWidth {values : List String} {value : String} (h : value ∈ values) :
    (constant value).length ≤ constantWidth values :=
  le_foldl_max (Or.inr (List.mem_map_of_mem h))

/-! ### Sections -/

variable {commandLine name : String} {values : List String}

/-- The sections of the file if all constants can be padded. -/
def sections (commandLine name : String) (acceptEmpty : Bool) (values : List String) :
    List (List String) :=
  [marker commandLine, packageClause name, importGroup,
   typeDeclaration name "a string-backed" "string",
   group "const" (values.map (constantLine name (constantWidth values))),
   errorDeclaration name "a string",
   valuesDeclaration name values,
   stringDeclaration name,
   validityDeclaration name acceptEmpty values,
   parseDeclaration name acceptEmpty,
   marshalDeclaration name "%q" ("string(" ++ receiver name ++ ")") (receiver name),
   unmarshalDeclaration name]

/-- There are sections if no constant is longer than what can be padded to. -/
theorem sections?_eq_some (h : ∀ value ∈ values, (constant value).length ≤ maxWidth)
    (commandLine name : String) (acceptEmpty : Bool) :
    sections? commandLine name acceptEmpty values =
      some (sections commandLine name acceptEmpty values) := by
  have hlines : values.mapM (constantLine? name (constantWidth values)) =
      some (values.map (constantLine name (constantWidth values))) := by
    have hline : ∀ value ∈ values, constantLine? name (constantWidth values) (id value) =
        some (constantLine name (constantWidth values) value) := by
      intro value _
      exact constantLine?_eq_some (constantWidth_le h) name value
    have hall := mapM_map_eq_some hline
    rwa [List.map_id] at hall
  rw [sections?, constantGroup?, hlines]
  rfl

/-- If there are sections, each constant can be padded. -/
theorem length_le_of_sections? {acceptEmpty : Bool} {found : List (List String)}
    (h : sections? commandLine name acceptEmpty values = some found) :
    ∀ value ∈ values, (constant value).length ≤ maxWidth := by
  intro value hvalue
  obtain ⟨constants, hconstants, -⟩ := Option.map_eq_some_iff.mp h
  obtain ⟨lines, hlines, -⟩ := Option.map_eq_some_iff.mp hconstants
  obtain ⟨line, hline⟩ := exists_of_mapM_eq_some hlines value hvalue
  obtain ⟨padded, hpadded, -⟩ := Option.map_eq_some_iff.mp hline
  have hwidth : constantWidth values ≤ maxWidth := by
    rw [← isSome_padRight?_iff _ (constant value), hpadded]
    rfl
  exact Nat.le_trans (le_constantWidth hvalue) hwidth

theorem eq_sections_of_sections? {acceptEmpty : Bool} {found : List (List String)}
    (h : sections? commandLine name acceptEmpty values = some found) :
    found = sections commandLine name acceptEmpty values := by
  rw [sections?_eq_some (length_le_of_sections? h)] at h
  exact (Option.some.inj h).symm

theorem render?_eq_some (h : ∀ value ∈ values, (constant value).length ≤ maxWidth)
    (commandLine name : String) (acceptEmpty : Bool) :
    Listing.render? ⟨commandLine, ⟨.string, name, values⟩, acceptEmpty⟩ =
      some (endLine (fileText (sections commandLine name acceptEmpty values))) := by
  unfold Listing.render? Listing.body? Listing.sections?
  dsimp only
  rw [sections?_eq_some h]
  rfl

/-! ### Lines -/

theorem areLines_constantLines (hname : OneLine name) (width : Nat)
    (hvalues : AreLines (values.map constant)) :
    AreLines (values.map (constantLine name width)) := by
  intro l hl
  obtain ⟨value, hvalue, rfl⟩ := List.mem_map.mp hl
  have hconstant : OneLine (constant value) := hvalues _ (List.mem_map_of_mem hvalue)
  have hpadding : ∀ n, OneLine (String.ofList (List.replicate n ' ')) := by
    intro n
    simp [OneLine]
  unfold constantLine
  simp +decide [hconstant, hpadding, hname, Lexeme.oneLine_literal]

theorem areLines_stringDeclaration (hname : OneLine name) :
    AreLines (stringDeclaration name) := by
  have hreceiver := oneLine_receiver hname
  unfold OneLine at hname hreceiver
  unfold stringDeclaration method
  simp [OneLine, hname, hreceiver]

theorem oneLine_validLabels (acceptEmpty : Bool) (hvalues : AreLines (values.map constant)) :
    OneLine (validLabels acceptEmpty values) := by
  have hlabels : OneLine (", ".intercalate (values.map constant)) := by
    generalize values.map constant = ls at hvalues
    induction ls with
    | nil => decide
    | cons l ls ih =>
      obtain ⟨hl, hls⟩ := (areLines_cons l ls).mp hvalues
      by_cases hnil : ls = []
      · simpa [hnil] using hl
      · rw [String.intercalate_cons_of_ne_nil hnil]
        simp +decide [hl, ih hls]
  unfold validLabels
  cases acceptEmpty <;> simp +decide [hlabels]

theorem areLines_validityDeclaration (hname : OneLine name) (acceptEmpty : Bool)
    (hvalues : AreLines (values.map constant)) :
    AreLines (validityDeclaration name acceptEmpty values) := by
  have hreceiver := oneLine_receiver hname
  have hlabels := oneLine_validLabels acceptEmpty hvalues
  have hswitch : AreLines (switchOn (receiver name)
      [(validLabels acceptEmpty values, ["return true"])]) := by
    apply areLines_switchOn hreceiver
    intro c hc
    rw [List.mem_singleton.mp hc]
    exact ⟨hlabels, by simp +decide⟩
  unfold OneLine at hname hreceiver
  unfold validityDeclaration validityComment method
  simp [OneLine, hname, hreceiver, hswitch]

theorem areLines_parseDeclaration (hname : OneLine name) (acceptEmpty : Bool) :
    AreLines (parseDeclaration name acceptEmpty) := by
  have hcomment := areLines_parseComment hname acceptEmpty
  unfold OneLine at hname
  unfold parseDeclaration parseHeader parseFunction guardValid invalidValue invalidError
  simp [OneLine, hcomment, hname]

theorem areLines_sections (hline : OneLine commandLine) (hname : OneLine name)
    (hvalues : AreLines (values.map constant)) (acceptEmpty : Bool) :
    ∀ s ∈ sections commandLine name acceptEmpty values, AreLines s := by
  have hconstants := areLines_constantLines hname (constantWidth values) hvalues
  have hreceiver := oneLine_receiver hname
  have hshown : OneLine ("string(" ++ receiver name ++ ")") := by
    simp +decide [hreceiver]
  obtain ⟨hmarker, hpackage, himports⟩ := areLines_preamble hline hname
  unfold sections
  simp only [List.forall_mem_cons, List.not_mem_nil, false_implies, implies_true, and_true]
  exact ⟨hmarker, hpackage, himports,
    areLines_typeDeclaration hname (by decide) (by decide),
    (areLines_group _ _).mpr ⟨by decide, hconstants⟩,
    areLines_errorDeclaration hname (by decide), areLines_valuesDeclaration hname hvalues,
    areLines_stringDeclaration hname, areLines_validityDeclaration hname acceptEmpty hvalues,
    areLines_parseDeclaration hname acceptEmpty,
    areLines_marshalDeclaration hname (by decide) hshown hreceiver,
    areLines_unmarshalDeclaration hname⟩

theorem getLast?_sections (commandLine name : String) (acceptEmpty : Bool) (values : List String) :
    (sections commandLine name acceptEmpty values).getLast? = some (unmarshalDeclaration name) := by
  simp [sections]

/-- The lines of the file are those of its sections, and an empty one, if no part that the file is
made from goes over a line. -/
theorem lines_of_areLines (hline : OneLine commandLine) (hname : OneLine name)
    (hvalues : AreLines (values.map constant)) (acceptEmpty : Bool) :
    lines (endLine (fileText (sections commandLine name acceptEmpty values))) =
      fileLines (sections commandLine name acceptEmpty values) ++ [""] :=
  lines_endLine_fileText (areLines_sections hline hname hvalues acceptEmpty)
    (getLast?_sections commandLine name acceptEmpty values) getLast?_unmarshalDeclaration
    (by decide)

end StringEnum

/-- The lines of the file of a string enumeration are those of its sections, and an empty one. -/
theorem lines_string {commandLine name : String} {values : List String}
    (hline : OneLine commandLine) (h : Compatible name .string values) (acceptEmpty : Bool) :
    lines (endLine (fileText (StringEnum.sections commandLine name acceptEmpty values))) =
      fileLines (StringEnum.sections commandLine name acceptEmpty values) ++ [""] :=
  StringEnum.lines_of_areLines hline (Lexeme.oneLine_of_isIdentifier h.isIdentifier_name)
    (areLines_constants h.identifiers) acceptEmpty

end GoEnum.Source

/-
  The lines of a generated file are tidy.

  The names that a file is made from are identifiers or leave no gap where an
  identifier leaves none, so in a line each stands for a word (`AreWords`). Whatever
  stands between them is fixed, and a line is read to its end over both. The lines
  of the const block of a string enumeration are an exception, as their constants
  are padded, and so is the first line, which the recorded command line is part of.
-/
import GoEnum.Proofs.Naming.Words
import GoEnum.Proofs.Source.Declarations
import GoEnum.Source.IntegerEnum
import GoEnum.Source.StringEnum

namespace GoEnum.Source

open Text Naming

/-! ### Tidy sections -/

/-- Whether all lines of a section are tidy. -/
def AreTidy (ls : List String) : Prop :=
  ∀ l ∈ ls, IsTidy l

instance : DecidablePred AreTidy := fun ls => inferInstanceAs (Decidable (∀ l ∈ ls, IsTidy l))

@[simp] theorem areTidy_nil : AreTidy [] := by
  simp [AreTidy]

@[simp] theorem areTidy_cons (l : String) (ls : List String) :
    AreTidy (l :: ls) ↔ IsTidy l ∧ AreTidy ls := by
  simp [AreTidy]

@[simp] theorem areTidy_append (ls ks : List String) :
    AreTidy (ls ++ ks) ↔ AreTidy ls ∧ AreTidy ks := by
  simp only [AreTidy, List.forall_mem_append]

@[simp] theorem areTidy_indent (ls : List String) : AreTidy (indent ls) ↔ AreTidy ls := by
  simp [AreTidy, indent]

theorem areTidy_enclosed {opening closing : String} {body : List String}
    (hopening : IsTidy opening) (hbody : AreTidy body) (hclosing : IsTidy closing) :
    AreTidy (enclosed opening body closing) := by
  simp only [enclosed, areTidy_cons, areTidy_append, areTidy_indent]
  exact ⟨hopening, hbody, hclosing, areTidy_nil⟩

theorem areTidy_block {header : String} {body : List String} (hheader : IsTidy header)
    (hbody : AreTidy body) : AreTidy (block header body) :=
  areTidy_enclosed (hheader.append (by decide)) hbody (by decide)

theorem areTidy_composite {type : String} {elements : List String} (htype : IsTidy type)
    (helements : AreTidy elements) : AreTidy (composite type elements) := by
  refine areTidy_enclosed (htype.append (by decide)) ?_ (by decide)
  intro l hl
  obtain ⟨element, helement, rfl⟩ := List.mem_map.mp hl
  exact (helements element helement).append (by decide)

theorem areTidy_group {keyword : String} {body : List String} (hkeyword : IsTidy keyword)
    (hbody : AreTidy body) : AreTidy (group keyword body) :=
  areTidy_enclosed (hkeyword.append (by decide)) hbody (by decide)

theorem areTidy_switchOn {subject : String} {cases : List (String × List String)}
    (hsubject : IsPhrase subject) (hcases : ∀ c ∈ cases, IsPhrase c.1 ∧ AreTidy c.2) :
    AreTidy (switchOn subject cases) := by
  have hcases : AreTidy (cases.flatMap fun c => ("case " ++ c.1 ++ ":") :: indent c.2) := by
    intro l hl
    obtain ⟨c, hc, hl⟩ := List.mem_flatMap.mp hl
    obtain ⟨hlabels, hbody⟩ := hcases c hc
    rcases List.mem_cons.mp hl with rfl | hl
    · simp only [IsTidy, Spacing.after_append, hlabels.after_eq]
      decide
    · exact (areTidy_indent c.2).mpr hbody l hl
  rw [switchOn_eq]
  simp only [areTidy_cons, areTidy_append, IsTidy, Spacing.after_append, hsubject.after_eq]
  exact ⟨by decide, hcases, by decide, areTidy_nil⟩

theorem areTidy_map {α : Type} {write : α → String} {items : List α}
    (h : ∀ item ∈ items, IsPhrase (write item)) : AreTidy (items.map write) := by
  intro l hl
  obtain ⟨item, hitem, rfl⟩ := List.mem_map.mp hl
  exact (h item hitem).after_eq _

theorem areTidy_guardValid {subject result : String} (hsubject : IsPhrase subject)
    (hresult : IsPhrase result) : AreTidy (guardValid subject result) := by
  apply areTidy_block
  · simp only [IsTidy, Spacing.after_append, hsubject.after_eq]
    decide
  · simp only [areTidy_cons, IsTidy, Spacing.after_append, hresult.after_eq]
    exact ⟨by decide, areTidy_nil⟩

/-- The sections after the const block of a string enumeration. -/
def StringEnum.sectionsAfterBlock (name : String) (acceptEmpty : Bool) (values : List String) :
    List (List String) :=
  [errorDeclaration name "a string",
   valuesDeclaration name values,
   stringDeclaration name,
   validityDeclaration name acceptEmpty values,
   parseDeclaration name acceptEmpty,
   marshalDeclaration name "%q" ("string(" ++ receiver name ++ ")") (receiver name),
   unmarshalDeclaration name]

/-! ### Shared sections -/

/-- Integer types and the methods named after them are single words. -/
theorem isPhrase_integerTypes : ∀ backing ∈ integerTypes,
    IsPhrase backing ∧ IsPhrase (backingMethod backing) := by
  decide

theorem areTidy_importGroup : AreTidy importGroup := by
  decide

section

variable {name : String} {values : List String} (h : AreWords name values)

include h

theorem areTidy_packageClause : AreTidy (packageClause name) := by
  have hpackage := h.isPhrase_packageName
  simp only [packageClause, areTidy_cons, areTidy_nil, IsTidy, Spacing.after_append,
    hpackage.after_eq]
  decide

theorem areTidy_typeDeclaration {backedBy underlying : String} (hbacked : IsPhrase backedBy)
    (hunder : IsPhrase underlying) : AreTidy (typeDeclaration name backedBy underlying) := by
  have hname := h.isPhrase_name
  simp only [typeDeclaration, areTidy_cons, areTidy_nil, IsTidy, Spacing.after_append,
    hname.after_eq, hbacked.after_eq, hunder.after_eq]
  decide

theorem areTidy_errorDeclaration {source : String} (hsource : IsPhrase source) :
    AreTidy (errorDeclaration name source) := by
  have hname := h.isPhrase_name
  simp only [errorDeclaration, invalidError, areTidy_cons, areTidy_nil, IsTidy,
    Spacing.after_append, hname.after_eq, hsource.after_eq]
  decide

theorem areTidy_valuesDeclaration : AreTidy (valuesDeclaration name values) := by
  have hname := h.isPhrase_name
  have hlist : AreTidy (composite ("return []" ++ name) (values.map constant)) := by
    apply areTidy_composite _ (areTidy_map h.isPhrase_constant)
    simp only [IsTidy, Spacing.after_append, hname.after_eq]
    decide
  refine (areTidy_cons _ _).mpr ⟨?_, areTidy_block ?_ hlist⟩
  · simp only [valuesFunction, IsTidy, Spacing.after_append, hname.after_eq]
    decide
  · simp only [valuesFunction, IsTidy, Spacing.after_append, hname.after_eq]
    decide

theorem areTidy_parseComment (acceptEmpty : Bool) : AreTidy (parseComment name acceptEmpty) := by
  have hname := h.isPhrase_name
  refine (areTidy_cons _ _).mpr ⟨?_, ?_⟩
  · simp only [parseFunction, IsTidy, Spacing.after_append, hname.after_eq]
    decide
  · cases acceptEmpty <;> decide

theorem isTidy_parseHeader : IsTidy (parseHeader name) := by
  have hname := h.isPhrase_name
  simp only [parseHeader, parseFunction, IsTidy, Spacing.after_append, hname.after_eq]
  decide

theorem isTidy_method {signature : String} (hsignature : IsPhrase signature) :
    IsTidy (method name signature) := by
  have hname := h.isPhrase_name
  have hreceiver := h.isPhrase_receiver
  simp only [method, IsTidy, Spacing.after_append, hname.after_eq, hreceiver.after_eq,
    hsignature.after_eq]
  decide

theorem isTidy_validityComment : IsTidy (validityComment name) := by
  have hname := h.isPhrase_name
  have hreceiver := h.isPhrase_receiver
  unfold validityComment
  simp only [IsTidy, Spacing.after_append, hname.after_eq, hreceiver.after_eq]
  decide

theorem isPhrase_invalidValue {verb operand : String} (hverb : IsPhrase verb)
    (hoperand : IsPhrase operand) : IsPhrase (invalidValue name verb operand) := by
  have hname := h.isPhrase_name
  unfold invalidValue invalidError
  simp only [IsPhrase, Spacing.after_append, hname.after_eq, hverb.after_eq, hoperand.after_eq]
  decide

theorem areTidy_marshalDeclaration {verb shown text : String} (hverb : IsPhrase verb)
    (hshown : IsPhrase shown) (htext : IsPhrase text) :
    AreTidy (marshalDeclaration name verb shown text) := by
  have hinvalid := isPhrase_invalidValue h hverb hshown
  have hresult : IsPhrase ("nil, " ++ invalidValue name verb shown) := by
    rw [IsPhrase, Spacing.after_append, hinvalid.after_eq]
    decide
  refine (areTidy_cons _ _).mpr ⟨by decide, areTidy_block (isTidy_method h (by decide)) ?_⟩
  refine (areTidy_append _ _).mpr ⟨areTidy_guardValid h.isPhrase_receiver hresult, ?_⟩
  simp only [areTidy_cons, areTidy_nil, IsTidy, Spacing.after_append, htext.after_eq]
  decide

theorem areTidy_unmarshalDeclaration : AreTidy (unmarshalDeclaration name) := by
  have hname := h.isPhrase_name
  have hreceiver := h.isPhrase_receiver
  refine (areTidy_cons _ _).mpr ⟨by decide, areTidy_block ?_ ?_⟩
  · simp only [IsTidy, Spacing.after_append, hname.after_eq, hreceiver.after_eq]
    decide
  · simp only [parseFunction, areTidy_append, areTidy_cons, areTidy_nil, IsTidy,
      Spacing.after_append, hname.after_eq, hreceiver.after_eq]
    decide

/-! ### Sections of integer enumerations -/

namespace IntegerEnum

theorem areTidy_constantGroup : AreTidy (group "const" (constantLines name values)) := by
  have hname := h.isPhrase_name
  refine areTidy_group (by decide) ?_
  cases values with
  | nil => exact areTidy_nil
  | cons value values =>
    obtain ⟨hvalue, hvalues⟩ := List.forall_mem_cons.mp h.isPhrase_constant
    refine (areTidy_cons _ _).mpr ⟨?_, areTidy_map hvalues⟩
    simp only [IsTidy, Spacing.after_append, hvalue.after_eq, hname.after_eq]
    decide

theorem areTidy_tableDeclaration : AreTidy (tableDeclaration name values) := by
  have hpackage := h.isPhrase_packageName
  refine areTidy_composite ?_ (areTidy_map h.isPhrase_literal)
  simp only [namesTable, IsTidy, Spacing.after_append, hpackage.after_eq]
  decide

theorem isPhrase_tableEntry : IsPhrase (tableEntry name) := by
  have hpackage := h.isPhrase_packageName
  have hreceiver := h.isPhrase_receiver
  unfold tableEntry namesTable
  simp only [IsPhrase, Spacing.after_append, hpackage.after_eq, hreceiver.after_eq]
  decide

theorem areTidy_stringDeclaration : AreTidy (stringDeclaration name) := by
  have hname := h.isPhrase_name
  have hreceiver := h.isPhrase_receiver
  have hentry := isPhrase_tableEntry h
  have hshown : IsPhrase ("fmt.Sprintf(\"" ++ name ++ "(%d)\", " ++ receiver name ++ ")") := by
    simp only [IsPhrase, Spacing.after_append, hname.after_eq, hreceiver.after_eq]
    decide
  refine (areTidy_cons _ _).mpr ⟨?_, areTidy_block (isTidy_method h (by decide)) ?_⟩
  · simp only [IsTidy, Spacing.after_append, hreceiver.after_eq]
    decide
  · refine (areTidy_append _ _).mpr ⟨areTidy_guardValid hreceiver hshown, ?_⟩
    simp only [areTidy_cons, areTidy_nil, IsTidy, Spacing.after_append, hentry.after_eq]
    decide

theorem areTidy_validityDeclaration : AreTidy (validityDeclaration name) := by
  have hpackage := h.isPhrase_packageName
  have hreceiver := h.isPhrase_receiver
  refine (areTidy_cons _ _).mpr
    ⟨isTidy_validityComment h, areTidy_block (isTidy_method h (by decide)) ?_⟩
  simp only [namesTable, areTidy_cons, areTidy_nil, IsTidy, Spacing.after_append,
    hpackage.after_eq, hreceiver.after_eq]
  decide

theorem areTidy_parseCases (acceptEmpty : Bool) :
    ∀ c ∈ parseCases acceptEmpty values, IsPhrase c.1 ∧ AreTidy c.2 := by
  have hcase : ∀ value ∈ values, ∀ more, Spacing.word.after more = .word →
      IsPhrase (parseCase more value).1 ∧ AreTidy (parseCase more value).2 := by
    intro value hvalue more hmore
    have hconstant := h.isPhrase_constant value hvalue
    have hliteral := h.isPhrase_literal value hvalue
    constructor
    · rw [parseCase, IsPhrase, Spacing.after_append, hliteral.after_eq]
      exact hmore
    · simp only [parseCase, areTidy_cons, areTidy_nil, IsTidy, Spacing.after_append,
        hconstant.after_eq]
      decide
  cases values with
  | nil => simp [parseCases]
  | cons value values =>
    intro c hc
    rcases List.mem_cons.mp hc with rfl | hc
    · refine hcase value List.mem_cons_self _ ?_
      cases acceptEmpty <;> decide
    · obtain ⟨v, hv, rfl⟩ := List.mem_map.mp hc
      exact hcase v (List.mem_cons_of_mem _ hv) "" rfl

theorem areTidy_parseDeclaration (acceptEmpty : Bool) :
    AreTidy (parseDeclaration name acceptEmpty values) := by
  have hinvalid : IsPhrase (invalidValue name "%q" "s") :=
    isPhrase_invalidValue h (by decide) (by decide)
  have hswitch : AreTidy (switchOn "s" (parseCases acceptEmpty values)) :=
    areTidy_switchOn (by decide) (areTidy_parseCases h acceptEmpty)
  have hlast : IsTidy ("return 0, " ++ invalidValue name "%q" "s") := by
    rw [IsTidy, Spacing.after_append, hinvalid.after_eq]
    decide
  refine (areTidy_append _ _).mpr
    ⟨areTidy_parseComment h acceptEmpty, areTidy_block (isTidy_parseHeader h) ?_⟩
  exact (areTidy_append _ _).mpr ⟨hswitch, (areTidy_cons _ _).mpr ⟨hlast, areTidy_nil⟩⟩

theorem areTidy_backingDeclaration {backing : String} (hbacking : IsPhrase backing)
    (hmethod : IsPhrase (backingMethod backing)) : AreTidy (backingDeclaration name backing) := by
  have hreceiver := h.isPhrase_receiver
  have hsignature : IsPhrase (backingMethod backing ++ "() " ++ backing) := by
    simp only [IsPhrase, Spacing.after_append, hmethod.after_eq, hbacking.after_eq]
    decide
  refine (areTidy_cons _ _).mpr ⟨?_, areTidy_block (isTidy_method h hsignature) ?_⟩
  · simp only [IsTidy, Spacing.after_append, hmethod.after_eq, hbacking.after_eq,
      hreceiver.after_eq]
    decide
  · simp only [areTidy_cons, areTidy_nil, IsTidy, Spacing.after_append, hbacking.after_eq,
      hreceiver.after_eq]
    decide

theorem areTidy_fromDeclaration {backing : String} (hbacking : IsPhrase backing)
    (hmethod : IsPhrase (backingMethod backing)) : AreTidy (fromDeclaration name backing) := by
  have hname := h.isPhrase_name
  have hfunction : IsPhrase (fromFunction name backing) := by
    rw [fromFunction, IsPhrase, Spacing.after_append, Spacing.after_append, hname.after_eq,
      hmethod.after_eq]
    decide
  have hinvalid : IsPhrase (invalidValue name "%d" "v") :=
    isPhrase_invalidValue h (by decide) (by decide)
  have hresult : IsPhrase ("0, " ++ invalidValue name "%d" "v") := by
    rw [IsPhrase, Spacing.after_append, hinvalid.after_eq]
    decide
  refine (areTidy_cons _ _).mpr ⟨?_, areTidy_block ?_ ?_⟩
  · simp only [IsTidy, Spacing.after_append, hfunction.after_eq, hname.after_eq]
    decide
  · simp only [IsTidy, Spacing.after_append, hfunction.after_eq, hbacking.after_eq, hname.after_eq]
    decide
  · simp only [areTidy_append, areTidy_cons, areTidy_nil, and_true, IsTidy, Spacing.after_append,
      hname.after_eq]
    exact ⟨⟨by decide, areTidy_guardValid (by decide) hresult⟩, by decide⟩

theorem areTidy_conversions {backing : Option String} (hbacking : (Kind.int backing).IsListed) :
    ∀ s ∈ conversions name backing, AreTidy s := by
  cases backing with
  | none => simp [conversions]
  | some backing =>
    obtain ⟨htype, hmethod⟩ := isPhrase_integerTypes backing hbacking
    simp only [conversions, List.forall_mem_cons, List.not_mem_nil, false_implies, implies_true,
      and_true]
    exact ⟨areTidy_backingDeclaration h htype hmethod, areTidy_fromDeclaration h htype hmethod⟩

/-- All sections after the first are tidy. -/
theorem areTidy_sections {backing : Option String} (hbacking : (Kind.int backing).IsListed)
    (commandLine : String) (acceptEmpty : Bool) :
    ∀ s ∈ (sections commandLine name backing acceptEmpty values).tail, AreTidy s := by
  have hreceiver := h.isPhrase_receiver
  have hunder : IsPhrase (Kind.int backing).goType := by
    cases backing with
    | none => decide
    | some backing => exact (isPhrase_integerTypes backing hbacking).1
  rw [sections, List.cons_append, List.tail_cons, List.forall_mem_append]
  refine ⟨?_, areTidy_conversions h hbacking⟩
  simp only [List.forall_mem_cons, List.not_mem_nil, false_implies, implies_true, and_true]
  exact ⟨areTidy_packageClause h, areTidy_importGroup,
    areTidy_typeDeclaration h (by decide) hunder, areTidy_constantGroup h,
    areTidy_tableDeclaration h, areTidy_errorDeclaration h (by decide),
    areTidy_valuesDeclaration h, areTidy_stringDeclaration h, areTidy_validityDeclaration h,
    areTidy_parseDeclaration h acceptEmpty,
    areTidy_marshalDeclaration h (by decide) hreceiver (isPhrase_tableEntry h),
    areTidy_unmarshalDeclaration h⟩

end IntegerEnum

/-! ### Sections of string enumerations -/

namespace StringEnum

theorem areTidy_stringDeclaration : AreTidy (stringDeclaration name) := by
  have hreceiver := h.isPhrase_receiver
  refine (areTidy_cons _ _).mpr ⟨?_, areTidy_block (isTidy_method h (by decide)) ?_⟩
  · simp only [IsTidy, Spacing.after_append, hreceiver.after_eq]
    decide
  · simp only [areTidy_cons, areTidy_nil, IsTidy, Spacing.after_append, hreceiver.after_eq]
    decide

theorem isPhrase_validLabels (hne : values ≠ []) (acceptEmpty : Bool) :
    IsPhrase (validLabels acceptEmpty values) := by
  have hlabels : IsPhrase (", ".intercalate (values.map constant)) := by
    apply isPhrase_intercalate (by simpa using hne)
    intro l hl
    obtain ⟨value, hvalue, rfl⟩ := List.mem_map.mp hl
    exact h.isPhrase_constant value hvalue
  rw [validLabels, IsPhrase, Spacing.after_append, hlabels.after_eq]
  cases acceptEmpty <;> decide

theorem areTidy_validityDeclaration (hne : values ≠ []) (acceptEmpty : Bool) :
    AreTidy (validityDeclaration name acceptEmpty values) := by
  have hswitch : AreTidy (switchOn (receiver name)
      [(validLabels acceptEmpty values, ["return true"])]) := by
    apply areTidy_switchOn h.isPhrase_receiver
    intro c hc
    rw [List.mem_singleton.mp hc]
    exact ⟨isPhrase_validLabels h hne acceptEmpty, show AreTidy ["return true"] by decide⟩
  refine (areTidy_cons _ _).mpr
    ⟨isTidy_validityComment h, areTidy_block (isTidy_method h (by decide)) ?_⟩
  exact (areTidy_append _ _).mpr ⟨hswitch, by decide⟩

theorem areTidy_parseDeclaration (acceptEmpty : Bool) :
    AreTidy (parseDeclaration name acceptEmpty) := by
  have hname := h.isPhrase_name
  have hinvalid : IsPhrase (invalidValue name "%q" "s") :=
    isPhrase_invalidValue h (by decide) (by decide)
  have hresult : IsPhrase ("\"\", " ++ invalidValue name "%q" "s") := by
    rw [IsPhrase, Spacing.after_append, hinvalid.after_eq]
    decide
  refine (areTidy_append _ _).mpr
    ⟨areTidy_parseComment h acceptEmpty, areTidy_block (isTidy_parseHeader h) ?_⟩
  simp only [areTidy_append, areTidy_cons, areTidy_nil, and_true, IsTidy, Spacing.after_append,
    hname.after_eq]
  exact ⟨⟨by decide, areTidy_guardValid (by decide) hresult⟩, by decide⟩

theorem areTidy_sectionsAfterBlock (hne : values ≠ []) (acceptEmpty : Bool) :
    ∀ s ∈ sectionsAfterBlock name acceptEmpty values, AreTidy s := by
  have hreceiver := h.isPhrase_receiver
  have hshown : IsPhrase ("string(" ++ receiver name ++ ")") := by
    simp only [IsPhrase, Spacing.after_append, hreceiver.after_eq]
    decide
  simp only [sectionsAfterBlock, List.forall_mem_cons, List.not_mem_nil, false_implies,
    implies_true, and_true]
  exact ⟨areTidy_errorDeclaration h (by decide), areTidy_valuesDeclaration h,
    areTidy_stringDeclaration h, areTidy_validityDeclaration h hne acceptEmpty,
    areTidy_parseDeclaration h acceptEmpty,
    areTidy_marshalDeclaration h (by decide) hshown hreceiver, areTidy_unmarshalDeclaration h⟩

end StringEnum

end

end GoEnum.Source

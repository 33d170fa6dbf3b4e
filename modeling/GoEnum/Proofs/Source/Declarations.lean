/-
  The lines of the sections that the files of both kinds of enumeration share.

  None of them holds a line feed if the name and the command line hold none: the
  small form of a text has no line feed that the text does not have, a constant is
  an identifier, and a literal escapes its line feeds.
-/
import GoEnum.Proofs.Lexeme.Literal
import GoEnum.Proofs.Kind
import GoEnum.Proofs.Lexeme.Identifier
import GoEnum.Proofs.Source.Layout
import GoEnum.Proofs.Text.LetterCase

namespace GoEnum.Source

open Text Naming

/-! ### Derived names -/

theorem oneLine_lowercase {s : String} (h : OneLine s) : OneLine (lowercase s) := by
  intro hmem
  rcases eq_or_le_of_mem_lowercase hmem with ⟨hold, -⟩ | hle
  · exact h hold
  · exact absurd hle (by decide)

theorem oneLine_receiver {name : String} (h : OneLine name) : OneLine (receiver name) := by
  have hfirst : OneLine (firstChar name) := by
    intro hmem
    rw [firstChar, String.toList_ofList] at hmem
    exact h (List.mem_of_mem_take hmem)
  have hfallback : OneLine (receiver.fallback name) := by
    unfold receiver.fallback
    split <;> decide
  unfold receiver
  dsimp only
  split
  · split
    · exact oneLine_lowercase hfirst
    · exact hfallback
  · exact hfallback

/-- Integer types and the methods named after them stay on one line. -/
theorem oneLine_integerTypes : ∀ backing ∈ integerTypes,
    OneLine backing ∧ OneLine (backingMethod backing) := by
  decide

theorem areLines_constants {values : List String}
    (h : ∀ value ∈ values, Lexeme.isIdentifier (constant value) = true) :
    AreLines (values.map constant) := by
  intro l hl
  obtain ⟨value, hvalue, rfl⟩ := List.mem_map.mp hl
  exact Lexeme.oneLine_of_isIdentifier (h value hvalue)

theorem areLines_literals (values : List String) : AreLines (values.map Lexeme.literal) := by
  intro l hl
  obtain ⟨value, -, rfl⟩ := List.mem_map.mp hl
  exact Lexeme.oneLine_literal value

/-! ### Shared sections -/

section

variable {commandLine name : String} {values : List String}

theorem areLines_preamble (hline : OneLine commandLine) (hname : OneLine name) :
    AreLines (marker commandLine) ∧ AreLines (packageClause name) ∧ AreLines importGroup := by
  have hpackage : OneLine (packageName name) := oneLine_lowercase hname
  have himports : AreLines (Lexeme.imports.map Lexeme.literal) := areLines_literals _
  unfold OneLine at hline hpackage
  simp [marker, packageClause, importGroup, OneLine, hline, hpackage, himports]

theorem areLines_typeDeclaration {backedBy underlying : String} (hname : OneLine name)
    (hbacked : OneLine backedBy) (hunder : OneLine underlying) :
    AreLines (typeDeclaration name backedBy underlying) := by
  unfold OneLine at hname hbacked hunder
  simp [typeDeclaration, OneLine, hname, hbacked, hunder]

theorem areLines_errorDeclaration {source : String} (hname : OneLine name)
    (hsource : OneLine source) : AreLines (errorDeclaration name source) := by
  unfold OneLine at hname hsource
  simp [errorDeclaration, invalidError, OneLine, hname, hsource]

theorem areLines_valuesDeclaration (hname : OneLine name)
    (hvalues : AreLines (values.map constant)) : AreLines (valuesDeclaration name values) := by
  unfold OneLine at hname
  simp [valuesDeclaration, valuesFunction, OneLine, hname, hvalues]

theorem areLines_parseComment (hname : OneLine name) (acceptEmpty : Bool) :
    AreLines (parseComment name acceptEmpty) := by
  unfold OneLine at hname
  cases acceptEmpty <;> simp [parseComment, parseFunction, OneLine, hname]

theorem areLines_marshalDeclaration {verb shown text : String} (hname : OneLine name)
    (hverb : OneLine verb) (hshown : OneLine shown) (htext : OneLine text) :
    AreLines (marshalDeclaration name verb shown text) := by
  have hreceiver := oneLine_receiver hname
  unfold OneLine at hname hreceiver hverb hshown htext
  unfold marshalDeclaration method guardValid invalidValue invalidError
  simp [OneLine, hname, hreceiver, hverb, hshown, htext]

theorem areLines_unmarshalDeclaration (hname : OneLine name) :
    AreLines (unmarshalDeclaration name) := by
  have hreceiver := oneLine_receiver hname
  unfold OneLine at hname hreceiver
  simp [unmarshalDeclaration, parseFunction, OneLine, hname, hreceiver]

theorem getLast?_unmarshalDeclaration : (unmarshalDeclaration name).getLast? = some "\x7d" := by
  simp [unmarshalDeclaration, List.getLast?_cons]

end

end GoEnum.Source

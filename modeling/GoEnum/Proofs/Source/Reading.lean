/-
  Reading what a generated file declares.

  The readers go by the lines of the text alone: a declaration is found by its
  first line and goes on to the line that closes it. They are stated for texts of
  any origin. That a section is found in the text of a file needs only that no
  earlier section has a line like its first one.
-/
import GoEnum.Proofs.Lexeme.Identifier
import GoEnum.Proofs.Source.Layout
import GoEnum.Source.Declarations

namespace GoEnum.Source

open Text Naming

/-! ### Readers -/

/-- The lines of the const block. -/
def constBlock? (text : String) : Option (List String) :=
  between? "const (" ")" (lines text)

/-- The lines of the body of the function or method with a header. -/
def body? (header text : String) : Option (List String) :=
  between? (header ++ " \x7b") "\x7d" (lines text)

/-- The header of the function that lists all values. -/
def valuesHeader (name : String) : String :=
  "func " ++ valuesFunction name ++ "() []" ++ name

/-- The elements of the list that the function returns which lists all values. -/
def listed? (name text : String) : Option (List String) := do
  let body ← body? (valuesHeader name) text
  let elements ← between? ("\treturn []" ++ name ++ "\x7b") "\t\x7d" body
  elements.mapM (unwrap? "\t\t" ",")

/-- The first word of a line. -/
def firstWord (l : String) : String :=
  String.ofList ((l.toList.dropWhile separatesWords).takeWhile (!separatesWords ·))

theorem separatesWords_of_isIdentifier {s : String} (h : Lexeme.isIdentifier s = true) {c : Char}
    (hc : c ∈ s.toList) : separatesWords c = false := by
  have hne : c ≠ ' ' ∧ c ≠ '\t' := by
    constructor
    · rintro rfl
      exact Lexeme.not_mem_of_isIdentifier h Lexeme.isWordChar_space hc
    · rintro rfl
      exact Lexeme.not_mem_of_isIdentifier h (Lexeme.isWordChar_ascii (by decide)) hc
  simp [separatesWords, hne]

/-- What has no blank in it is the first word of a line that starts with it, if nothing or a blank
follows it. -/
theorem firstWord_append {s rest : String} (hne : s.toList ≠ [])
    (hword : ∀ c ∈ s.toList, separatesWords c = false)
    (hrest : ∀ c ∈ rest.toList.head?, separatesWords c = true) : firstWord (s ++ rest) = s := by
  have htake : (s.toList ++ rest.toList).takeWhile (!separatesWords ·) = s.toList := by
    rw [List.takeWhile_append_of_pos fun c hc => by simp [hword c hc]]
    cases hcs : rest.toList with
    | nil => simp
    | cons c cs =>
      have hblank : separatesWords c = true := hrest c (by simp [hcs])
      rw [List.takeWhile_cons_of_neg (by simp [hblank]), List.append_nil]
  have hdrop : (s.toList ++ rest.toList).dropWhile separatesWords = s.toList ++ rest.toList := by
    cases hcs : s.toList with
    | nil => exact absurd hcs hne
    | cons c cs =>
      rw [List.cons_append, List.dropWhile_cons_of_neg]
      simp [hword c (by simp [hcs])]
  rw [firstWord, String.toList_append, hdrop, htake, String.ofList_toList]

/-- An identifier is the first word of its line, if nothing or a blank follows it. -/
theorem firstWord_indented {s rest : String} (h : Lexeme.isIdentifier s = true)
    (hrest : ∀ c ∈ rest.toList.head?, separatesWords c = true) :
    firstWord ("\t" ++ (s ++ rest)) = s := by
  have hindented : firstWord ("\t" ++ (s ++ rest)) = firstWord (s ++ rest) := by
    rw [firstWord, String.toList_append, show "\t".toList = ['\t'] from rfl, List.singleton_append,
      List.dropWhile_cons_of_pos (by decide), firstWord]
  rw [hindented]
  exact firstWord_append (Lexeme.toList_ne_nil_of_isIdentifier h)
    (fun _ hc => separatesWords_of_isIdentifier h hc) hrest

/-! ### Lines that stand elsewhere -/

/-- The sections before the constants. -/
def preamble (commandLine name backedBy underlying : String) : List (List String) :=
  [marker commandLine, packageClause name, importGroup, typeDeclaration name backedBy underlying]

/-- What starts unlike all lines before the constants is none of them. -/
theorem not_mem_preamble {l : String}
    (hl : l.toList.head? ∉ [some '/', some 'p', some 'i', some '\t', some ')', some 't'])
    (commandLine name backedBy underlying : String) :
    ∀ s ∈ preamble commandLine name backedBy underlying, l ∉ s := by
  have hne : ∀ {k : String} (c : Char), k.toList.head? = some c →
      some c ∈ [some '/', some 'p', some 'i', some '\t', some ')', some 't'] → l ≠ k := by
    rintro k c hk hc rfl
    exact hl (hk ▸ hc)
  have hindent : ∀ body, l ∉ indent body := by
    apply not_mem_indent
    intro htab
    exact hl (by simp [htab])
  simp only [preamble, List.forall_mem_cons]
  refine ⟨?_, ?_, ?_, ?_, by simp⟩
  · simp [marker, hne '/']
  · simp [packageClause, hne 'p']
  · have hends : l ≠ "import (" ∧ l ≠ ")" := ⟨hne 'i' rfl (by decide), hne ')' rfl (by decide)⟩
    simpa [importGroup, group, enclosed, hindent] using hends
  · simp [typeDeclaration, hne '/', hne 't']

theorem not_mem_constGroup {l : String}
    (hl : l.toList.head? ∉ [some 'c', some '\t', some ')']) (body : List String) :
    l ∉ group "const" body := by
  have hopen : l ≠ "const (" := by
    rintro rfl
    exact hl (by decide)
  have hclose : l ≠ ")" := by
    rintro rfl
    exact hl (by decide)
  have hindent : l ∉ indent body := by
    apply not_mem_indent
    intro htab
    exact hl (by simp [htab])
  simp [group, enclosed, hopen, hclose, hindent]

theorem not_mem_errorDeclaration {l : String} (hl : l.toList.head? = some 'f')
    (name source : String) : l ∉ errorDeclaration name source := by
  intro hmem
  simp only [errorDeclaration, List.mem_cons, List.not_mem_nil, or_false] at hmem
  rcases hmem with rfl | rfl
  · simp at hl
  · simp at hl

/-- The first line of a function is not found in the function before it, if it is not the first
line of that one. -/
theorem not_mem_function {l comment header : String} (hl : l.toList.head? = some 'f')
    (hcomment : comment.toList.head? = some '/') (hheader : l ≠ header ++ " \x7b")
    (body : List String) : l ∉ comment :: block header body := by
  have hne : l ≠ comment := by
    rintro rfl
    rw [hl] at hcomment
    exact absurd hcomment (by decide)
  have hclose : l ≠ "\x7d" := by
    rintro rfl
    exact absurd hl (by decide)
  have hindent : l ∉ indent body := not_mem_indent (by simp [hl]) body
  simp [block, enclosed, hne, hheader, hclose, hindent]

/-- The headers of the two functions differ in length. -/
theorem parseHeader_ne_valuesHeader (name : String) :
    parseHeader name ++ " \x7b" ≠ valuesHeader name ++ " \x7b" := by
  intro heq
  have hlength := congrArg (fun s : String => s.toList.length) heq
  unfold parseHeader valuesHeader parseFunction valuesFunction at hlength
  simp at hlength
  omega

theorem parseHeader_ne_method (name signature : String) :
    parseHeader name ++ " \x7b" ≠ method name signature ++ " \x7b" := by
  unfold parseHeader parseFunction method
  simp [← String.toList_inj]

/-- The name of a function is an identifier, and no bracket. -/
theorem method_ne_valuesHeader {name : String} (h : Lexeme.isIdentifier name = true)
    (signature : String) : method name signature ++ " \x7b" ≠ valuesHeader name ++ " \x7b" := by
  cases hcs : name.toList with
  | nil => exact absurd hcs (Lexeme.toList_ne_nil_of_isIdentifier h)
  | cons c cs =>
    have hc : c ≠ '(' := by
      rintro rfl
      exact Lexeme.not_mem_of_isIdentifier h Lexeme.isWordChar_paren (hcs ▸ List.mem_cons_self)
    unfold method valuesHeader valuesFunction
    simp [← String.toList_inj, hcs, hc.symm]

theorem parseHeader_not_mem_parseComment (name : String) (acceptEmpty : Bool) :
    parseHeader name ++ " \x7b" ∉ parseComment name acceptEmpty := by
  unfold parseHeader
  cases acceptEmpty <;> simp [parseComment, ← String.toList_inj]

theorem head?_validityComment (name : String) :
    (validityComment name).toList.head? = some '/' := by
  unfold validityComment
  simp

/-! ### Sections of files -/

section

variable {text name : String} {before after : List (List String)}

/-- The body of a function is found in the file, below the comment before it. -/
theorem body?_eq_some {header : String} {comment body : List String}
    (htext : lines text = fileLines (before ++ (comment ++ block header body) :: after) ++ [""])
    (hbefore : ∀ s ∈ before, header ++ " \x7b" ∉ s) (hcomment : header ++ " \x7b" ∉ comment) :
    body? header text = some (indent body) := by
  have hne : header ++ " \x7b" ≠ "" := by
    intro h
    have hlist := congrArg String.toList h
    rw [String.toList_append] at hlist
    exact absurd (List.append_eq_nil_iff.mp hlist).2 (by decide)
  rw [body?, htext]
  exact between?_fileLines_enclosed hne hbefore hcomment (by decide) body after [""]

theorem constBlock?_eq_some {body : List String}
    (htext : lines text = fileLines (before ++ group "const" body :: after) ++ [""])
    (hbefore : ∀ s ∈ before, "const (" ∉ s) : constBlock? text = some (indent body) := by
  have hnone : "const (" ∉ ([] : List String) := List.not_mem_nil
  rw [constBlock?, htext]
  exact between?_fileLines_enclosed (by decide) hbefore hnone (by decide) body after [""]

/-- A switch is found in the body of a function, and between its braces are its cases. -/
theorem between?_switchOn (subject : String) (cases : List (String × List String))
    (rest : List String) :
    between? ("\tswitch " ++ subject ++ " \x7b") "\t\x7d"
        (indent (switchOn subject cases ++ rest)) =
      some (indent (cases.flatMap fun c => ("case " ++ c.1 ++ ":") :: indent c.2)) := by
  have hclose : "\x7d" ∉ cases.flatMap fun c => ("case " ++ c.1 ++ ":") :: indent c.2 := by
    intro hmem
    obtain ⟨c, -, hmem⟩ := List.mem_flatMap.mp hmem
    rcases List.mem_cons.mp hmem with heq | hmem
    · simp [← String.toList_inj] at heq
    · exact not_mem_indent (by decide) _ hmem
  -- In the body, the switch is indented by one tab more than the lemma on lists of lines has it.
  have hindent := between?_indent ("switch " ++ subject ++ " \x7b") "\x7d"
    (switchOn subject cases ++ rest)
  rw [show "\t" ++ ("switch " ++ subject ++ " \x7b") = "\tswitch " ++ subject ++ " \x7b" by
    simp [← String.toList_inj]] at hindent
  refine hindent.trans ?_
  rw [switchOn_eq, List.cons_append, List.append_assoc, List.singleton_append, between?_cons hclose,
    Option.map_some]

/-- The lines that an element and its comma stand on are read back. -/
theorem mapM_unwrap?_elements (elements : List String) :
    (indent (indent (elements.map (· ++ ",")))).mapM (unwrap? "\t\t" ",") = some elements := by
  have hread : ∀ element ∈ elements,
      unwrap? "\t\t" "," ("\t" ++ ("\t" ++ (element ++ ","))) = some element := by
    intro element _
    have hunwrap := unwrap?_append "\t\t" element ","
    rwa [show "\t\t" = "\t" ++ "\t" from rfl, String.append_assoc, String.append_assoc] at hunwrap
  have hall := mapM_map_eq_some hread
  rw [List.map_id'] at hall
  rw [indent, indent, List.map_map, List.map_map]
  exact hall

theorem listed?_eq_some {values : List String}
    (htext : lines text = fileLines (before ++ valuesDeclaration name values :: after) ++ [""])
    (hbefore : ∀ s ∈ before, valuesHeader name ++ " \x7b" ∉ s) :
    listed? name text = some (values.map constant) := by
  have hbody : body? (valuesHeader name) text =
      some (indent (composite ("return []" ++ name) (values.map constant))) := by
    have hcomment : valuesHeader name ++ " \x7b" ∉ ["// " ++ valuesFunction name
        ++ " returns every " ++ name ++ " value in declaration order."] := by
      simp [valuesHeader, ← String.toList_inj]
    exact body?_eq_some htext hbefore hcomment
  have hinner : between? ("\treturn []" ++ name ++ "\x7b") "\t\x7d"
      (indent (composite ("return []" ++ name) (values.map constant))) =
        some (indent (indent ((values.map constant).map (· ++ ",")))) := by
    have hclose : "\x7d" ∉ indent ((values.map constant).map (· ++ ",")) :=
      not_mem_indent (by decide) _
    have hindent := between?_indent ("return []" ++ name ++ "\x7b") "\x7d"
      (composite ("return []" ++ name) (values.map constant))
    rw [composite, enclosed, between?_cons hclose] at hindent
    exact hindent
  rw [listed?, hbody]
  simp only [Option.bind_eq_bind, Option.bind_some, hinner, mapM_unwrap?_elements]

end

end GoEnum.Source

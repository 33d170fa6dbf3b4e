/-
  What a generated file declares on the level of the package.

  A declaration starts at the start of a line with its keyword, and the name comes
  next; the const block declares the first word of each of its lines. These are, each
  once, the names that the check of the name and the values reckons with
  (`DeclaresNames`).
-/
import GoEnum.Proofs.Naming.Declared
import GoEnum.Proofs.Source.IntegerTables
import GoEnum.Proofs.Source.StringValues

namespace GoEnum.Source

open Text Naming Lexeme

/-! ### Readers -/

/-- Whether a character ends the name that a line declares. -/
def endsDeclared (c : Char) : Bool :=
  c == ' ' || c == '('

/-- The name that a line declares: the word after its keyword, unless there is a bracket. -/
def declaredName? (line : String) : Option String := do
  let rest ← ["type ", "var ", "func "].findSome? (stripStart? · line)
  if rest.toList.head? = some '(' then none
  else return String.ofList (rest.toList.takeWhile (!endsDeclared ·))

/-- The names that a text declares on the level of the package. -/
def packageNames? (text : String) : Option (List String) := do
  let constants ← constBlock? text
  return (lines text).filterMap declaredName? ++ constants.map firstWord

/-! ### Lines -/

/-- Whether a text can be read as a declared name. -/
def IsDeclarable (s : String) : Prop :=
  s.toList ≠ [] ∧ ∀ c ∈ s.toList, endsDeclared c = false

instance : DecidablePred IsDeclarable := fun s =>
  decidable_of_iff (s.toList.isEmpty = false ∧ s.toList.all (!endsDeclared ·) = true) (by
    simp [IsDeclarable])

theorem declaredName?_eq_some {s : String} (hs : IsDeclarable s) (keyword rest : String)
    (hkeyword : keyword ∈ ["type ", "var ", "func "])
    (hrest : ∃ c ∈ rest.toList.head?, endsDeclared c = true) :
    declaredName? (keyword ++ (s ++ rest)) = some s := by
  obtain ⟨hne, hword⟩ := hs
  obtain ⟨c, hc, hends⟩ := hrest
  have hstrip : ["type ", "var ", "func "].findSome? (stripStart? · (keyword ++ (s ++ rest))) =
      some (s ++ rest) := by
    simp only [List.mem_cons, List.not_mem_nil, or_false] at hkeyword
    rcases hkeyword with rfl | rfl | rfl <;> simp [stripStart?, List.isPrefixOf?]
  have hhead : (s ++ rest).toList.head? ≠ some '(' := by
    cases hcs : s.toList with
    | nil => exact absurd hcs hne
    | cons d ds =>
      have hd := hword d (by simp [hcs])
      have hparen : d ≠ '(' := by
        rintro rfl
        exact absurd hd (by decide)
      simpa [hcs] using hparen
  -- What comes after the name ends it, and nothing in the name does.
  have htake : (s ++ rest).toList.takeWhile (!endsDeclared ·) = s.toList := by
    obtain ⟨cs, hcs⟩ := List.head?_eq_some_iff.mp (Option.mem_def.mp hc)
    rw [String.toList_append, List.takeWhile_append_of_pos fun d hd => by simp [hword d hd], hcs,
      List.takeWhile_cons_of_neg (by simp [hends]), List.append_nil]
  rw [declaredName?, hstrip]
  simp only [Option.bind_eq_bind, Option.bind_some, if_neg hhead, htake, String.ofList_toList,
    Option.pure_def]

/-- A line that starts like none of the keywords declares nothing. -/
theorem declaredName?_eq_none {line : String}
    (h : line.toList.head? ∉ [some 't', some 'v', some 'f']) : declaredName? line = none := by
  cases hcs : line.toList with
  | nil => simp [declaredName?, stripStart?, hcs, List.isPrefixOf?]
  | cons c cs =>
    obtain ⟨ht, hv, hf⟩ : c ≠ 't' ∧ c ≠ 'v' ∧ c ≠ 'f' := by simpa [hcs] using h
    simp [declaredName?, stripStart?, hcs, List.isPrefixOf?, ht.symm, hv.symm, hf.symm]

/-- A method declares nothing on the level of the package. -/
theorem declaredName?_method (rest : String) : declaredName? ("func (" ++ rest) = none := by
  simp [declaredName?, stripStart?, List.isPrefixOf?]

/-! ### Sections -/

theorem filterMap_indent (body : List String) : (indent body).filterMap declaredName? = [] := by
  rw [List.filterMap_eq_nil_iff]
  intro l hl
  obtain ⟨b, -, rfl⟩ := List.mem_map.mp hl
  apply declaredName?_eq_none
  simp

/-- Of what is in brackets, only the opening line can declare a name. -/
theorem filterMap_enclosed {closing : String}
    (h : closing.toList.head? ∉ [some 't', some 'v', some 'f']) (opening : String)
    (body : List String) : (enclosed opening body closing).filterMap declaredName? =
      (declaredName? opening).toList := by
  have hclosing : [closing].filterMap declaredName? = [] :=
    List.filterMap_cons_none (declaredName?_eq_none h)
  rw [enclosed, List.filterMap_cons, List.filterMap_append, filterMap_indent, hclosing]
  cases declaredName? opening <;> rfl

theorem filterMap_block (header : String) (body : List String) :
    (block header body).filterMap declaredName? = (declaredName? (header ++ " \x7b")).toList :=
  filterMap_enclosed (by decide) _ body

/-- A comment declares nothing. -/
theorem filterMap_comment {comment : String} (h : comment.toList.head? = some '/')
    (ls : List String) :
    (comment :: ls).filterMap declaredName? = ls.filterMap declaredName? := by
  rw [List.filterMap_cons_none (declaredName?_eq_none (by simp [h]))]

theorem filterMap_fileLines (sections : List (List String)) :
    (fileLines sections ++ [""]).filterMap declaredName? =
      sections.flatMap (·.filterMap declaredName?) := by
  -- The lines between the sections are empty, so they declare nothing.
  have hempty : declaredName? "" = none := declaredName?_eq_none (by decide)
  cases sections with
  | nil => simp [fileLines, hempty]
  | cons s after =>
    rw [fileLines_cons]
    simp [List.filterMap_append, List.filterMap_flatMap, hempty]

/-! ### Derived names -/

theorem isDeclarable_of_isIdentifier {s : String} (h : isIdentifier s = true) : IsDeclarable s := by
  refine ⟨toList_ne_nil_of_isIdentifier h, ?_⟩
  intro c hc
  have hne : c ≠ ' ' ∧ c ≠ '(' := by
    constructor
    · rintro rfl
      exact not_mem_of_isIdentifier h isWordChar_space hc
    · rintro rfl
      exact not_mem_of_isIdentifier h isWordChar_paren hc
  simp [endsDeclared, hne]

theorem isDeclarable_append {s t : String} (hs : IsDeclarable s) (ht : IsDeclarable t) :
    IsDeclarable (s ++ t) := by
  obtain ⟨hne, hs⟩ := hs
  obtain ⟨-, ht⟩ := ht
  constructor
  · simp [hne]
  · intro c hc
    rw [String.toList_append] at hc
    rcases List.mem_append.mp hc with hc | hc
    · exact hs c hc
    · exact ht c hc

/-- No blank and no bracket comes into a name when it is put in small letters. -/
theorem isDeclarable_lowercase {s : String} (h : IsDeclarable s) : IsDeclarable (lowercase s) := by
  obtain ⟨hne, hword⟩ := h
  constructor
  · intro hnil
    have hle := length_le_length_lowercase s
    rw [← String.length_toList (s := lowercase s), hnil] at hle
    exact hne (by simpa using hle)
  · intro c hc
    rcases eq_or_le_of_mem_lowercase hc with ⟨hold, -⟩ | hle
    · exact hword c hold
    · have hends : c ≠ ' ' ∧ c ≠ '(' := by
        constructor
        · rintro rfl
          exact absurd hle (by decide)
        · rintro rfl
          exact absurd hle (by decide)
      simp [endsDeclared, hends]

theorem isDeclarable_backingMethod :
    ∀ backing ∈ integerTypes, IsDeclarable (backingMethod backing) := by
  decide

/-! ### Declarations -/

section

variable {name : String}

theorem filterMap_method {comment : String} (h : comment.toList.head? = some '/')
    (name signature : String) (body : List String) :
    (comment :: block (method name signature) body).filterMap declaredName? = [] := by
  have hheader : declaredName? (method name signature ++ " \x7b") = none := by
    unfold method
    rw [String.append_assoc, String.append_assoc, String.append_assoc, String.append_assoc,
      String.append_assoc]
    exact declaredName?_method _
  rw [filterMap_comment h, filterMap_block, hheader]
  rfl

/-- Of the sections before the constants, one declares a name, which is that of the type. -/
theorem filterMap_preamble (hname : IsDeclarable name) (commandLine backedBy underlying : String) :
    (preamble commandLine name backedBy underlying).flatMap (·.filterMap declaredName?) =
      [name] := by
  have hmarker : (marker commandLine).filterMap declaredName? = [] := filterMap_comment (by simp) []
  have hpackage : (packageClause name).filterMap declaredName? = [] :=
    List.filterMap_cons_none (declaredName?_eq_none (by simp))
  have himports : importGroup.filterMap declaredName? = [] := by
    rw [importGroup, group, filterMap_enclosed (by decide), declaredName?_eq_none (by decide)]
    rfl
  have htype : (typeDeclaration name backedBy underlying).filterMap declaredName? = [name] := by
    have hdeclared := declaredName?_eq_some hname "type " (" " ++ underlying) (by simp)
      (by simp [endsDeclared])
    rw [← String.append_assoc, ← String.append_assoc] at hdeclared
    rw [typeDeclaration, filterMap_comment (by simp), List.filterMap_cons_some hdeclared]
    rfl
  simp only [preamble, List.flatMap_cons, List.flatMap_nil, hmarker, hpackage, himports, htype,
    List.nil_append, List.append_nil]

theorem filterMap_constGroup (body : List String) :
    (group "const" body).filterMap declaredName? = [] := by
  rw [group, filterMap_enclosed (by decide), declaredName?_eq_none (by decide)]
  rfl

theorem filterMap_errorDeclaration (hname : IsDeclarable name) (source : String) :
    (errorDeclaration name source).filterMap declaredName? = [invalidError name] := by
  have herror : IsDeclarable (invalidError name) := isDeclarable_append (by decide) hname
  have hdeclared := declaredName?_eq_some herror "var "
    (" = errors.New(\"invalid " ++ name ++ "\")") (by simp) (by simp [endsDeclared])
  rw [errorDeclaration, filterMap_comment (by simp)]
  simp only [String.append_assoc] at hdeclared ⊢
  rw [List.filterMap_cons_some hdeclared]
  rfl

theorem filterMap_valuesDeclaration (hname : IsDeclarable name) (values : List String) :
    (valuesDeclaration name values).filterMap declaredName? = [valuesFunction name] := by
  have hvalues : IsDeclarable (valuesFunction name) := isDeclarable_append hname (by decide)
  have hdeclared := declaredName?_eq_some hvalues "func " ("() []" ++ name ++ " \x7b") (by simp)
    (by simp [endsDeclared])
  rw [valuesDeclaration, filterMap_comment (by simp), filterMap_block]
  simp only [String.append_assoc] at hdeclared ⊢
  rw [hdeclared]
  rfl

theorem filterMap_parseFunction (hname : IsDeclarable name) (acceptEmpty : Bool)
    (body : List String) :
    (parseComment name acceptEmpty ++ block (parseHeader name) body).filterMap declaredName? =
      [parseFunction name] := by
  have hparse : IsDeclarable (parseFunction name) := isDeclarable_append (by decide) hname
  have hdeclared := declaredName?_eq_some hparse "func " ("(s string) (" ++ name ++ ", error)"
    ++ " \x7b") (by simp) (by simp [endsDeclared])
  have hcomment : (parseComment name acceptEmpty).filterMap declaredName? = [] := by
    cases acceptEmpty
    · exact filterMap_comment (by simp) []
    · exact (filterMap_comment (by simp) _).trans (filterMap_comment (by simp) [])
  have hheader : declaredName? (parseHeader name ++ " \x7b") = some (parseFunction name) := by
    unfold parseHeader
    simpa only [String.append_assoc] using hdeclared
  rw [List.filterMap_append, hcomment, filterMap_block, hheader]
  rfl

theorem filterMap_unmarshalDeclaration (name : String) :
    (unmarshalDeclaration name).filterMap declaredName? = [] := by
  have hheader : declaredName? ("func (" ++ receiver name ++ " *" ++ name
      ++ ") UnmarshalText(text []byte) error" ++ " \x7b") = none := by
    rw [String.append_assoc, String.append_assoc, String.append_assoc, String.append_assoc]
    exact declaredName?_method _
  rw [unmarshalDeclaration, filterMap_comment (by simp), filterMap_block, hheader]
  rfl

theorem filterMap_marshalDeclaration (name verb shown text : String) :
    (marshalDeclaration name verb shown text).filterMap declaredName? = [] :=
  filterMap_method (by simp) name _ _

/-! ### Files -/

/-- The names that the file of a string enumeration declares, in the order of its sections. -/
theorem filterMap_string (hname : IsDeclarable name) (commandLine : String) (acceptEmpty : Bool)
    (values : List String) :
    (StringEnum.sections commandLine name acceptEmpty values).flatMap (·.filterMap declaredName?) =
      [name, invalidError name, valuesFunction name, parseFunction name] := by
  have hsections : StringEnum.sections commandLine name acceptEmpty values =
      preamble commandLine name "a string-backed" "string" ++
        [group "const"
           (values.map (StringEnum.constantLine name (StringEnum.constantWidth values))),
         errorDeclaration name "a string", valuesDeclaration name values,
         StringEnum.stringDeclaration name, StringEnum.validityDeclaration name acceptEmpty values,
         StringEnum.parseDeclaration name acceptEmpty,
         marshalDeclaration name "%q" ("string(" ++ receiver name ++ ")") (receiver name),
         unmarshalDeclaration name] := rfl
  have hstring : (StringEnum.stringDeclaration name).filterMap declaredName? = [] :=
    filterMap_method (by simp) name _ _
  have hvalidity :
      (StringEnum.validityDeclaration name acceptEmpty values).filterMap declaredName? = [] :=
    filterMap_method (head?_validityComment name) name _ _
  have hparse : (StringEnum.parseDeclaration name acceptEmpty).filterMap declaredName? =
      [parseFunction name] := filterMap_parseFunction hname acceptEmpty _
  rw [hsections, List.flatMap_append, filterMap_preamble hname]
  simp only [List.flatMap_cons, List.flatMap_nil, filterMap_constGroup,
    filterMap_errorDeclaration hname, filterMap_valuesDeclaration hname, hstring, hvalidity, hparse,
    filterMap_marshalDeclaration, filterMap_unmarshalDeclaration, List.nil_append, List.append_nil,
    List.cons_append]

theorem filterMap_tableDeclaration (hname : IsDeclarable name) (values : List String) :
    (IntegerEnum.tableDeclaration name values).filterMap declaredName? = [namesTable name] := by
  have hnames : IsDeclarable (namesTable name) :=
    isDeclarable_append (isDeclarable_lowercase hname) (by decide)
  have hdeclared := declaredName?_eq_some hnames "var " (" = [...]string" ++ "\x7b") (by simp)
    (by simp [endsDeclared])
  rw [IntegerEnum.tableDeclaration, composite, filterMap_enclosed (by decide)]
  simp only [String.append_assoc] at hdeclared ⊢
  rw [hdeclared]
  rfl

/-- The name of the function from the integer type, if there is one. -/
def fromFunctions (name : String) : Option String → List String
  | none => []
  | some backing => [fromFunction name backing]

theorem filterMap_conversions (hname : IsDeclarable name) {backing : Option String}
    (hbacking : (Kind.int backing).IsListed) :
    (IntegerEnum.conversions name backing).flatMap (·.filterMap declaredName?) =
      fromFunctions name backing := by
  cases backing with
  | none => rfl
  | some backing =>
    have hmethod := isDeclarable_backingMethod backing hbacking
    have hfrom : IsDeclarable (fromFunction name backing) :=
      isDeclarable_append (isDeclarable_append hname (by decide)) hmethod
    have hdeclared := declaredName?_eq_some hfrom "func "
      ("(v " ++ backing ++ ") (" ++ name ++ ", error)" ++ " \x7b") (by simp)
      (by simp [endsDeclared])
    have hto : (IntegerEnum.backingDeclaration name backing).filterMap declaredName? = [] :=
      filterMap_method (by simp) name _ _
    simp only [IntegerEnum.conversions, List.flatMap_cons, List.flatMap_nil, hto, List.nil_append,
      List.append_nil]
    rw [IntegerEnum.fromDeclaration, filterMap_comment (by simp), filterMap_block]
    simp only [String.append_assoc] at hdeclared ⊢
    rw [hdeclared]
    rfl

/-- The names that the file of an integer enumeration declares, in the order of its sections. -/
theorem filterMap_integer (hname : IsDeclarable name) {backing : Option String}
    (hbacking : (Kind.int backing).IsListed) (commandLine : String) (acceptEmpty : Bool)
    (values : List String) :
    (IntegerEnum.sections commandLine name backing acceptEmpty values).flatMap
        (·.filterMap declaredName?) =
      [name, namesTable name, invalidError name, valuesFunction name, parseFunction name] ++
        fromFunctions name backing := by
  have hsections : IntegerEnum.sections commandLine name backing acceptEmpty values =
      preamble commandLine name "an integer-backed" (Kind.int backing).goType ++
        ([group "const" (IntegerEnum.constantLines name values),
          IntegerEnum.tableDeclaration name values, errorDeclaration name "a string or number",
          valuesDeclaration name values, IntegerEnum.stringDeclaration name,
          IntegerEnum.validityDeclaration name,
          IntegerEnum.parseDeclaration name acceptEmpty values,
          marshalDeclaration name "%d" (receiver name) (IntegerEnum.tableEntry name),
          unmarshalDeclaration name] ++ IntegerEnum.conversions name backing) := rfl
  have hstring : (IntegerEnum.stringDeclaration name).filterMap declaredName? = [] :=
    filterMap_method (by simp) name _ _
  have hvalidity : (IntegerEnum.validityDeclaration name).filterMap declaredName? = [] :=
    filterMap_method (head?_validityComment name) name _ _
  have hparse : (IntegerEnum.parseDeclaration name acceptEmpty values).filterMap declaredName? =
      [parseFunction name] := filterMap_parseFunction hname acceptEmpty _
  have hconversions := filterMap_conversions hname hbacking
  rw [hsections, List.flatMap_append, List.flatMap_append, filterMap_preamble hname, hconversions]
  simp only [List.flatMap_cons, List.flatMap_nil, filterMap_constGroup,
    filterMap_tableDeclaration hname, filterMap_errorDeclaration hname,
    filterMap_valuesDeclaration hname, hstring, hvalidity, hparse, filterMap_marshalDeclaration,
    filterMap_unmarshalDeclaration, List.nil_append, List.append_nil, List.cons_append]

end

/-! ### What is declared -/

/-- Whether the names that a text declares are the ones that the check of a name and its values
reckons with: each once, and no others. -/
def DeclaresNames (name : String) (kind : Kind) (values : List String) (text : String) : Prop :=
  ∃ names, packageNames? text = some names ∧ names.Nodup ∧
    ∀ s, s ∈ names ↔ s ∈ declaredNames name kind ∨ ∃ value ∈ values, s = constant value

theorem declaresNames_of_perm {name text : String} {kind : Kind} {values names : List String}
    (hkind : kind.IsListed) (h : Compatible name kind values)
    (hnames : packageNames? text = some (names ++ values.map constant))
    (hperm : names.Perm (declaredNames name kind)) : DeclaresNames name kind values text := by
  have hname : name ≠ "" := by
    rintro rfl
    exact toList_ne_nil_of_isIdentifier h.isIdentifier_name rfl
  refine ⟨_, hnames, ?nodup, ?mem⟩
  case nodup =>
    refine List.nodup_append.mpr ⟨?_, h.distinct, ?_⟩
    · exact hperm.nodup_iff.mpr (nodup_declaredNames hname hkind)
    · -- The check refuses a constant with the name of another declaration.
      rintro s hs t ht rfl
      obtain ⟨value, hvalue, rfl⟩ := List.mem_map.mp ht
      exact h.fresh value hvalue (hperm.mem_iff.mp hs)
  case mem =>
    intro s
    rw [List.mem_append, hperm.mem_iff, List.mem_map]
    simp only [eq_comm]

theorem packageNames?_string {commandLine name text : String} {acceptEmpty : Bool}
    {values : List String} (h : Compatible name .string values)
    (htext : lines text =
      fileLines (StringEnum.sections commandLine name acceptEmpty values) ++ [""]) :
    packageNames? text = some ([name, invalidError name, valuesFunction name, parseFunction name] ++
      values.map constant) := by
  have hname := isDeclarable_of_isIdentifier h.isIdentifier_name
  have hwords : (values.map fun value => "\t" ++ StringEnum.constantLine name
      (StringEnum.constantWidth values) value).map firstWord = values.map constant := by
    rw [List.map_map]
    apply List.map_congr_left
    intro value hvalue
    exact StringEnum.firstWord_constantLine (h.identifiers value hvalue) name _
  simp only [packageNames?, StringEnum.constBlock?_of_lines htext, Option.bind_eq_bind,
    Option.bind_some, Option.pure_def]
  rw [htext, filterMap_fileLines, filterMap_string hname, hwords]

theorem perm_string (name : String) :
    [name, invalidError name, valuesFunction name, parseFunction name].Perm
      (declaredNames name .string) := by
  rw [List.perm_iff_count]
  intro s
  simp only [declaredNames, List.append_nil, List.count_cons, List.count_nil]
  omega

theorem packageNames?_integer {commandLine name text : String} {backing : Option String}
    {acceptEmpty : Bool} {values : List String} (hbacking : (Kind.int backing).IsListed)
    (h : Compatible name (.int backing) values)
    (htext : lines text =
      fileLines (IntegerEnum.sections commandLine name backing acceptEmpty values) ++ [""]) :
    packageNames? text = some ([name, namesTable name, invalidError name, valuesFunction name,
      parseFunction name] ++ fromFunctions name backing ++ values.map constant) := by
  have hname := isDeclarable_of_isIdentifier h.isIdentifier_name
  simp only [packageNames?, IntegerEnum.constBlock?_of_lines htext, Option.bind_eq_bind,
    Option.bind_some, Option.pure_def]
  rw [htext, filterMap_fileLines, filterMap_integer hname hbacking,
    IntegerEnum.map_firstWord_countedLines h.identifiers]

theorem perm_integer (name : String) (backing : Option String) :
    ([name, namesTable name, invalidError name, valuesFunction name, parseFunction name] ++
      fromFunctions name backing).Perm (declaredNames name (.int backing)) := by
  rw [List.perm_iff_count]
  intro s
  cases backing with
  | none =>
    simp only [declaredNames, fromFunctions, List.append_nil, List.cons_append, List.nil_append,
      List.count_cons, List.count_nil]
    omega
  | some backing =>
    simp only [declaredNames, fromFunctions, List.cons_append, List.nil_append, List.count_cons,
      List.count_nil]
    omega

/-- For a name and values that can be used together, the generated file declares the names that the
check reckons with, and nothing twice. -/
theorem declaresNames {commandLine token name : String} {kind : Kind} {values : List String}
    (hline : OneLine commandLine) (hkind : Kind.parse token = .ok kind)
    (hcheck : check name kind values = .ok ())
    (hwidth : ∀ value ∈ values, (constant value).length ≤ maxWidth) (acceptEmpty : Bool) :
    ∃ text, Listing.render? ⟨commandLine, ⟨kind, name, values⟩, acceptEmpty⟩ = some text ∧
      DeclaresNames name kind values text := by
  have hlisted := Kind.isListed_of_parse hkind
  have h := check_eq_ok_iff.mp hcheck
  cases kind with
  | string =>
    have htext := lines_string hline h acceptEmpty
    have hrender : Listing.render? ⟨commandLine, ⟨.string, name, values⟩, acceptEmpty⟩ =
        some (endLine (fileText (StringEnum.sections commandLine name acceptEmpty values))) :=
      StringEnum.render?_eq_some hwidth commandLine name acceptEmpty
    exact ⟨_, hrender, declaresNames_of_perm hlisted h (packageNames?_string h htext)
      (perm_string name)⟩
  | int backing =>
    have htext := lines_integer hline hlisted h acceptEmpty
    exact ⟨_, rfl, declaresNames_of_perm hlisted h (packageNames?_integer hlisted h htext)
      (perm_integer name backing)⟩

theorem declaresNames_size : ∃ text, Listing.render?
    ⟨"go-enum int:uint8 Size small Medium", ⟨.int "uint8", "Size", ["small", "Medium"]⟩, false⟩ =
      some text ∧ DeclaresNames "Size" (.int "uint8") ["small", "Medium"] text :=
  have hkind : Kind.parse " INT:uint8" = .ok (.int "uint8") := by decide +kernel
  declaresNames (by decide) hkind (by decide +kernel) (by decide +kernel) false

end GoEnum.Source

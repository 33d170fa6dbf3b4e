/-
  Where a parameter hides the type of an enumeration.

  In a function that converts to the type, no parameter may have its name
  (`KeepsTypeVisible`). Methods have the receiver for a parameter, which is never
  the name of the type, and the text that a value is read from. The functions that
  convert have fixed parameters, `s` and `v`, which the check of the names lets
  through, so the type is hidden just if it has that very name
  (`keepsTypeVisible_iff`).
-/
import GoEnum.Proofs.Naming.SmallForms
import GoEnum.Proofs.Source.Functions
import GoEnum.Proofs.Source.Marker
import GoEnum.Proofs.Source.StringValues
import GoEnum.Proofs.Source.IntegerTables

namespace GoEnum.Source

open Text Lexeme Naming

/-! ### Hiding a type -/

/-- Whether no parameter of a function has the name of a type that it converts to. -/
def Function.KeepsVisible (f : Function) (name : String) : Prop :=
  name ∈ f.calls → name ∉ f.parameters

/-- Whether no function in some lines that converts to a type has a parameter of that name. -/
def KeepsTypeVisible (name : String) (ls : List String) : Prop :=
  ∀ f ∈ functionsIn ls, f.KeepsVisible name

/-- Whether some lines, wherever they stand, keep a type visible just under a condition. -/
def KeepsVisibleIff (name : String) (ls : List String) (condition : Prop) : Prop :=
  ∀ rest, KeepsTypeVisible name (ls ++ rest) ↔ condition ∧ KeepsTypeVisible name rest

section

variable {name : String}

theorem KeepsVisibleIff.append {ls ks : List String} {first second : Prop}
    (hls : KeepsVisibleIff name ls first) (hks : KeepsVisibleIff name ks second) :
    KeepsVisibleIff name (ls ++ ks) (first ∧ second) := by
  intro rest
  rw [List.append_assoc, hls, hks, and_assoc]

theorem Declares.keepsVisibleIff {ls : List String} {functions : List Function}
    (h : Declares ls functions) (name : String) :
    KeepsVisibleIff name ls (∀ f ∈ functions, f.KeepsVisible name) := by
  intro rest
  rw [KeepsTypeVisible, h, List.forall_mem_append, KeepsTypeVisible]

/-- Lines without functions hide nothing. -/
theorem Declares.keepsVisible {ls : List String} (h : Declares ls []) :
    KeepsVisibleIff name ls True := by
  simpa using h.keepsVisibleIff name

/-- A function below a comment keeps a type visible just if it calls no parameter of that name. -/
theorem keepsVisibleIff_block (name : String) {comment parameters : List String} {header : String}
    (hcomment : ∀ l ∈ comment, l.toList.head? ≠ some 'f')
    (hheader : "func ".toList <+: header.toList)
    (hparameters : ∀ body, Function.parameters ⟨header ++ " \x7b", body⟩ = parameters)
    (body : List String) :
    KeepsVisibleIff name (comment ++ block header body)
      (name ∈ body.flatMap called → name ∉ parameters) := by
  have hnone : Declares comment [] := declares_of_head? hcomment
  have h := (hnone.append (declares_block hheader body)).keepsVisibleIff name
  rwa [List.nil_append, List.forall_mem_singleton, Function.KeepsVisible, Function.calls,
    flatMap_called_indent, hparameters] at h

theorem keepsVisibleIff_flatMap {sections : List (List String)} {g : List String → List String}
    (h : ∀ s ∈ sections, KeepsVisibleIff name (g s) True) :
    KeepsVisibleIff name (sections.flatMap g) True := by
  induction sections with
  | nil =>
    intro rest
    simp
  | cons s sections ih =>
    obtain ⟨hs, hsections⟩ := List.forall_mem_cons.mp h
    have hboth := hs.append (ih hsections)
    rwa [and_self] at hboth

/-- If all sections but one keep the type visible, that one decides. -/
theorem keepsTypeVisible_fileLines {before after : List (List String)} {s : List String}
    {condition : Prop} (hbefore : ∀ t ∈ before, KeepsVisibleIff name t True)
    (hs : KeepsVisibleIff name s condition) (hafter : ∀ t ∈ after, KeepsVisibleIff name t True) :
    KeepsTypeVisible name (fileLines (before ++ s :: after) ++ [""]) ↔ condition := by
  -- The empty line after a section goes with it up to the one that decides, and the empty line
  -- before a section goes with it from there on.
  have hempty : KeepsVisibleIff name [""] True := (declares_nil (by decide)).keepsVisible
  have hfront : KeepsVisibleIff name (before.flatMap (· ++ [""])) True :=
    keepsVisibleIff_flatMap fun t ht => by simpa using (hbefore t ht).append hempty
  have hback : KeepsVisibleIff name (after.flatMap ("" :: ·)) True :=
    keepsVisibleIff_flatMap fun t ht => by simpa using hempty.append (hafter t ht)
  have hnone : KeepsTypeVisible name [""] := by
    intro f hf
    exact absurd hf List.not_mem_nil
  rw [fileLines_append_cons, (hfront.append hs).append hback]
  simp [hnone]

/-! ### Methods -/

/-- No character that comes between names comes into a small form. -/
theorem delimits_of_mem_lowercase {s : String} (h : isIdentifier s = true) {c : Char}
    (hc : c ∈ (lowercase (firstChar s)).toList) : delimits c = false := by
  rcases eq_or_le_of_mem_lowercase hc with ⟨hold, -⟩ | hle
  · rw [firstChar, String.toList_ofList] at hold
    exact (isBindable_of_isIdentifier h).2 c (List.mem_of_mem_take hold)
  · have hne : ∀ d : Char, d.toNat < 0x61 → (c == d) = false := by
      rintro d hd
      refine beq_false_of_ne ?_
      rintro rfl
      omega
    simp [delimits, separatesWords, hne ' ' (by decide), hne '\t' (by decide),
      hne ',' (by decide), hne '(' (by decide), hne ')' (by decide)]

theorem isBindable_receiver (h : isIdentifier name = true) : IsBindable (receiver name) := by
  rcases receiver_cases name with ⟨hletter, -, c, hc, -⟩ | hfallback
  · refine ⟨?_, fun d hd => ?_⟩
    · intro hnil
      simp [hnil] at hc
    · rw [hletter] at hd
      exact delimits_of_mem_lowercase h hd
  · rw [hfallback]
    unfold receiver.fallback
    split <;> decide

/-- The parameters of a method are its receiver and those of its signature. -/
theorem parameters_receiver {type m p : String} (h : isIdentifier name = true)
    (htype : IsBindable type) (hm : '(' ∉ m.toList) (hp : '(' ∉ p.toList)
    (hclose : ')' ∉ p.toList) (t : String) (body : List String) :
    Function.parameters ⟨"func (" ++ receiver name ++ " " ++ type ++ ") " ++ m ++ "(" ++ p ++ ")"
        ++ t, body⟩ = receiver name :: bound p := by
  have hreceiver := isBindable_receiver h
  have hheader : "func (" ++ receiver name ++ " " ++ type ++ ") " ++ m ++ "(" ++ p ++ ")" ++ t =
      "func " ++ "(" ++ ((receiver name ++ (" " ++ type)) ++
        (")" ++ ((" " ++ m) ++ "(" ++ (p ++ (")" ++ t))))) := by
    simp [← String.toList_inj]
  -- The receiver and its type have no bracket and no comma, so the first group is theirs.
  have hmember : ∀ c, delimits c = true → c ≠ ' ' →
      c ∉ (receiver name ++ (" " ++ type)).toList := by
    intro c hc hne
    simp [hreceiver.not_mem hc, htype.not_mem hc, hne]
  have hbound : bound (receiver name ++ (" " ++ type)) = [receiver name] := by
    refine bound_append hreceiver ?_ (by simp [separatesWords])
    simp [htype.not_mem (c := ',') rfl]
  rw [hheader, parameters_method (hmember '(' rfl (by decide)) (hmember ')' rfl (by decide))
    (by simpa using hm) hp hclose, hbound, List.singleton_append]

/-- The only parameter of a method is its receiver, if the signature has none. -/
theorem parameters_of_signature {m t : String} (h : isIdentifier name = true) (hm : '(' ∉ m.toList)
    {signature : String} (hsignature : signature = m ++ "(" ++ "" ++ ")" ++ t)
    (body : List String) :
    Function.parameters ⟨method name signature ++ " \x7b", body⟩ = [receiver name] := by
  have hall := parameters_receiver h (isBindable_of_isIdentifier h) hm (p := "") (by decide)
    (by decide) (t ++ " \x7b") body
  rw [bound_empty] at hall
  rw [← hall, hsignature, method]
  simp only [String.append_assoc]

/-- A method without parameters besides its receiver keeps the type visible. -/
theorem keepsVisible_method {comment m t : String} (h : isIdentifier name = true)
    (hcomment : comment.toList.head? = some '/') (hm : '(' ∉ m.toList) {signature : String}
    (hsignature : signature = m ++ "(" ++ "" ++ ")" ++ t) (body : List String) :
    KeepsVisibleIff name (comment :: block (method name signature) body) True := by
  have hparameters := parameters_of_signature h hm hsignature
  have hfirst : ∀ l ∈ [comment], l.toList.head? ≠ some 'f' := by simp [hcomment]
  have hblock := keepsVisibleIff_block name hfirst (by simp [method, List.IsPrefix]) hparameters
    body
  have hne : name ∉ [receiver name] := by
    rw [List.mem_singleton]
    exact (receiver_ne name).symm
  simpa [hne] using hblock

/-! ### Functions of both kinds of enumeration -/

theorem keepsVisible_valuesDeclaration (h : isIdentifier name = true) (values : List String) :
    KeepsVisibleIff name (valuesDeclaration name values) True := by
  have hvalues : IsBindable (valuesFunction name) :=
    isBindable_append (isBindable_of_isIdentifier h) (by decide)
  have hparameters : ∀ body, Function.parameters
      ⟨"func " ++ valuesFunction name ++ "() []" ++ name ++ " \x7b", body⟩ = [] := by
    intro body
    have hall := parameters_function hvalues (p := "") (by decide) (by decide)
      (" []" ++ name ++ " \x7b") body
    rw [bound_empty] at hall
    rw [← hall]
    simp only [String.append_assoc]
    rfl
  have hcomment : ∀ l ∈ ["// " ++ valuesFunction name ++ " returns every " ++ name
      ++ " value in declaration order."], l.toList.head? ≠ some 'f' := by simp
  have hblock := keepsVisibleIff_block name hcomment (by simp [List.IsPrefix]) hparameters
    (composite ("return []" ++ name) (values.map constant))
  simpa [valuesDeclaration] using hblock

/-- The function that reads a value has one parameter, and hides the type if it converts to the type
and the parameter has its name. -/
theorem keepsVisibleIff_parse (h : isIdentifier name = true) (acceptEmpty : Bool)
    (body : List String) :
    KeepsVisibleIff name (parseComment name acceptEmpty ++ block (parseHeader name) body)
      (name ∈ body.flatMap called → name ≠ "s") := by
  have hparse : IsBindable (parseFunction name) :=
    isBindable_append (by decide) (isBindable_of_isIdentifier h)
  have hparameters : ∀ body, Function.parameters ⟨parseHeader name ++ " \x7b", body⟩ = ["s"] := by
    intro body
    have hall := parameters_function hparse (p := "s string") (by decide) (by decide)
      (" (" ++ name ++ ", error)" ++ " \x7b") body
    rw [show bound "s string" = ["s"] by decide] at hall
    rw [← hall, parseHeader]
    simp only [String.append_assoc]
    rfl
  have hcomment : ∀ l ∈ parseComment name acceptEmpty, l.toList.head? ≠ some 'f' := by
    cases acceptEmpty <;> simp [parseComment]
  have hblock := keepsVisibleIff_block name hcomment (by simp [parseHeader, List.IsPrefix])
    hparameters body
  simpa using hblock

theorem isNameChar_of_isIdentifier {s : String} (h : isIdentifier s = true) :
    ∀ c ∈ s.toList, isNameChar c = true := by
  intro c hc
  simp [isNameChar, isWordChar_of_isIdentifier h c hc]

/-- An identifier between a blank and an opening bracket is called. -/
theorem called_append_identifier {s : String} (hs : '(' ∉ s.toList)
    (hblank : s.toList.getLast? = some ' ') (h : isIdentifier name = true) (t : String) :
    called (s ++ name ++ ("(" ++ t)) = name :: called t := by
  have hlast : ∀ c ∈ s.toList.getLast?, isNameChar c = false := by
    have hspace : isNameChar ' ' = false := by simp [isNameChar, isWordChar_space]
    simp [hblank, hspace]
  have hopen : '(' ∉ (s ++ name).toList := by
    simp [hs, (isBindable_of_isIdentifier h).not_mem (c := '(') rfl]
  rw [← String.append_assoc, called_append hopen,
    lastName_append hlast (isNameChar_of_isIdentifier h)]

/-- The method that reads a value from text has two parameters. -/
theorem parameters_unmarshal (h : isIdentifier name = true) (body : List String) :
    Function.parameters ⟨"func (" ++ receiver name ++ " *" ++ name
      ++ ") UnmarshalText(text []byte) error" ++ " \x7b", body⟩ = [receiver name, "text"] := by
  have hpointer : IsBindable ("*" ++ name) :=
    isBindable_append (by decide) (isBindable_of_isIdentifier h)
  have hall := parameters_receiver h hpointer (m := "UnmarshalText") (p := "text []byte")
    (by decide) (by decide) (by decide) (" error" ++ " \x7b") body
  rw [show bound "text []byte" = ["text"] by decide] at hall
  have hheader : "func (" ++ receiver name ++ " *" ++ name
      ++ ") UnmarshalText(text []byte) error" ++ " \x7b" =
      "func (" ++ receiver name ++ " " ++ ("*" ++ name) ++ ") " ++ "UnmarshalText" ++ "("
        ++ "text []byte" ++ ")" ++ (" error" ++ " \x7b") := by
    simp [← String.toList_inj]
  rw [hheader]
  exact hall

/-- The method that reads a value from text has a parameter besides the receiver, but it does not
convert to the type. -/
theorem keepsVisible_unmarshalDeclaration (h : isIdentifier name = true)
    (hstring : name ≠ "string") : KeepsVisibleIff name (unmarshalDeclaration name) True := by
  have hreceiver := isBindable_receiver h
  have hparse : isIdentifier (parseFunction name) = true :=
    isIdentifier_append (by decide) (isWordChar_of_isIdentifier h)
  have hcalls : (["parsed, err := " ++ parseFunction name ++ "(string(text))"]
      ++ block "if err != nil" ["return err"]
      ++ ["*" ++ receiver name ++ " = parsed", "return nil"]).flatMap called =
        [parseFunction name, "string"] := by
    have hfirst : called ("parsed, err := " ++ parseFunction name ++ "(string(text))") =
        [parseFunction name, "string"] := by
      have hargument : called "string(text))" = ["string"] := by decide
      rw [← hargument]
      exact called_append_identifier (by decide) (by decide) hparse "string(text))"
    have hstar : called ("*" ++ receiver name ++ " = parsed") = [] :=
      called_eq_nil (by simp [hreceiver.not_mem (c := '(') rfl])
    have hblock : (block "if err != nil" ["return err"]).flatMap called = [] := by decide
    have hreturn : called "return nil" = [] := called_eq_nil (by decide)
    simp [hfirst, hblock, hstar, hreturn]
  have hnot : name ∉ [parseFunction name, "string"] := by
    -- The name of the function is longer than the name it is made of.
    have hlength : name ≠ parseFunction name := by
      intro heq
      have hlong := congrArg String.length heq
      simp [parseFunction] at hlong
    simp [hlength, hstring]
  have hparameters := parameters_unmarshal h
  have hcomment : ∀ l ∈ ["// UnmarshalText implements encoding.TextUnmarshaler."],
      l.toList.head? ≠ some 'f' := by decide
  have hblock := keepsVisibleIff_block name hcomment (by simp [List.IsPrefix]) hparameters
    (["parsed, err := " ++ parseFunction name ++ "(string(text))"]
      ++ block "if err != nil" ["return err"]
      ++ ["*" ++ receiver name ++ " = parsed", "return nil"])
  rw [hcalls] at hblock
  simp only [hnot, false_implies] at hblock
  exact hblock

theorem keepsVisible_marshalDeclaration (h : isIdentifier name = true) (verb shown text : String) :
    KeepsVisibleIff name (marshalDeclaration name verb shown text) True :=
  keepsVisible_method h (by simp) (m := "MarshalText") (t := " ([]byte, error)") (by decide)
    (by decide) _

/-! ### Sections without functions -/

theorem keepsVisible_preamble (commandLine backedBy underlying : String) :
    ∀ s ∈ preamble commandLine name backedBy underlying, KeepsVisibleIff name s True :=
  fun s hs => (declares_preamble commandLine name backedBy underlying s hs).keepsVisible

theorem keepsVisible_constGroup (body : List String) :
    KeepsVisibleIff name (group "const" body) True :=
  (declares_constGroup body).keepsVisible

theorem keepsVisible_errorDeclaration (source : String) :
    KeepsVisibleIff name (errorDeclaration name source) True :=
  (declares_errorDeclaration name source).keepsVisible

theorem declares_tableDeclaration (name : String) (values : List String) :
    Declares (IntegerEnum.tableDeclaration name values) [] :=
  declares_enclosed (by simp) (by decide) _

theorem keepsVisible_tableDeclaration (values : List String) :
    KeepsVisibleIff name (IntegerEnum.tableDeclaration name values) True :=
  (declares_tableDeclaration name values).keepsVisible

/-! ### Files -/

theorem ne_of_reserved {kind : Kind} {values : List String} (h : Compatible name kind values)
    {word : String} (hword : word ∈ reserved) : name ≠ word := by
  rintro rfl
  have husable := h.usable
  simp only [isUsableName, Bool.and_eq_true, Bool.not_eq_true', List.contains_eq_mem,
    decide_eq_false_iff_not] at husable
  exact husable.1.2 hword

/-- The function that reads a value converts its parameter to the type. -/
theorem keepsTypeVisible_string {values : List String} (h : Compatible name .string values)
    (commandLine : String) (acceptEmpty : Bool) :
    KeepsTypeVisible name
      (fileLines (StringEnum.sections commandLine name acceptEmpty values) ++ [""]) ↔
        name ≠ "s" := by
  have hname := h.isIdentifier_name
  have hsections : StringEnum.sections commandLine name acceptEmpty values =
      (preamble commandLine name "a string-backed" "string" ++
        [group "const"
           (values.map (StringEnum.constantLine name (StringEnum.constantWidth values))),
         errorDeclaration name "a string", valuesDeclaration name values,
         StringEnum.stringDeclaration name,
         StringEnum.validityDeclaration name acceptEmpty values]) ++
      StringEnum.parseDeclaration name acceptEmpty ::
        [marshalDeclaration name "%q" ("string(" ++ receiver name ++ ")") (receiver name),
         unmarshalDeclaration name] := rfl
  have hparse :
      KeepsVisibleIff name (StringEnum.parseDeclaration name acceptEmpty) (name ≠ "s") := by
    have hcalls : name ∈ (["parsed := " ++ name ++ "(s)"]
        ++ guardValid "parsed" ("\"\", " ++ invalidValue name "%q" "s")
        ++ ["return parsed, nil"]).flatMap called := by
      have hconversion : called ("parsed := " ++ name ++ "(s)") = name :: called "s)" :=
        called_append_identifier (by decide) (by decide) hname "s)"
      simp [hconversion]
    have hiff := keepsVisibleIff_parse hname acceptEmpty (["parsed := " ++ name ++ "(s)"]
        ++ guardValid "parsed" ("\"\", " ++ invalidValue name "%q" "s")
        ++ ["return parsed, nil"])
    simp only [hcalls, true_implies] at hiff
    exact hiff
  rw [hsections]
  refine keepsTypeVisible_fileLines ?_ hparse ?_
  · rw [List.forall_mem_append]
    refine ⟨keepsVisible_preamble commandLine _ _, ?_⟩
    simp only [List.forall_mem_cons, List.not_mem_nil, false_implies, implies_true, and_true]
    exact ⟨keepsVisible_constGroup _, keepsVisible_errorDeclaration _,
      keepsVisible_valuesDeclaration hname values,
      keepsVisible_method hname (by simp) (m := "String") (t := " string") (by decide)
        (by decide) _,
      keepsVisible_method hname (head?_validityComment name) (m := "IsValid") (t := " bool")
        (by decide) (by decide) _⟩
  · simp only [List.forall_mem_cons, List.not_mem_nil, false_implies, implies_true, and_true]
    exact ⟨keepsVisible_marshalDeclaration hname _ _ _,
      keepsVisible_unmarshalDeclaration hname (ne_of_reserved h (by decide))⟩

/-- A value whose constant is an identifier has no bracket in it. -/
theorem paren_not_mem_of_isIdentifier_constant {value : String}
    (h : isIdentifier (constant value) = true) : '(' ∉ value.toList := by
  intro hmem
  refine not_mem_of_isIdentifier h isWordChar_paren ?_
  rw [constant, capitalize, String.toList_ofList]
  cases hcs : value.toList with
  | nil => simp [hcs] at hmem
  | cons c cs =>
    rw [hcs] at hmem
    rw [capitalizeFirst]
    rcases List.mem_cons.mp hmem with rfl | hmem
    · have hself : '(' ∈ toCapital '(' := by decide
      exact List.mem_append_left _ hself
    · exact List.mem_append_right _ hmem

theorem paren_not_mem_literal {s : String} (h : '(' ∉ s.toList) : '(' ∉ (literal s).toList := by
  have hescape : ∀ c ∈ s.toList, '(' ∉ escapeInLiteral c := by
    intro c hc hmem
    unfold escapeInLiteral at hmem
    split_ifs at hmem
    all_goals simp only [List.mem_cons, List.not_mem_nil, or_false, Char.reduceEq] at hmem
    exact h (hmem ▸ hc)
  simpa [literal, literalChars] using hescape

/-- No name is called in the cases of the switch. -/
theorem flatMap_called_switchOn {acceptEmpty : Bool} {values : List String}
    (h : ∀ value ∈ values, isIdentifier (constant value) = true) :
    (switchOn "s" (IntegerEnum.parseCases acceptEmpty values)).flatMap called = [] := by
  have hcase : ∀ value ∈ values, ∀ more : String, '(' ∉ more.toList →
      ((("case " ++ (IntegerEnum.parseCase more value).1 ++ ":") ::
        indent (IntegerEnum.parseCase more value).2).flatMap called) = [] := by
    intro value hvalue more hmore
    have hliteral := paren_not_mem_literal (paren_not_mem_of_isIdentifier_constant (h value hvalue))
    have hconstant := not_mem_of_isIdentifier (h value hvalue) isWordChar_paren
    have hlabel : called ("case " ++ (literal value ++ more) ++ ":") = [] :=
      called_eq_nil (by simp [hliteral, hmore])
    have hreturn : called ("return " ++ constant value ++ ", nil") = [] :=
      called_eq_nil (by simp [hconstant])
    simp [IntegerEnum.parseCase, hlabel, hreturn]
  -- Only the first case may have a second label, the empty text.
  have hcases : ∀ c ∈ IntegerEnum.parseCases acceptEmpty values,
      (("case " ++ c.1 ++ ":") :: indent c.2).flatMap called = [] := by
    cases values with
    | nil => simp [IntegerEnum.parseCases]
    | cons value values =>
      intro c hc
      rcases List.mem_cons.mp hc with rfl | hc
      · refine hcase value List.mem_cons_self _ ?_
        cases acceptEmpty <;> decide
      · obtain ⟨v, hv, rfl⟩ := List.mem_map.mp hc
        exact hcase v (List.mem_cons_of_mem _ hv) "" (by decide)
  have hopening : called ("switch " ++ "s" ++ " \x7b") = [] := by decide
  have hclosing : called "\x7d" = [] := by decide
  rw [switchOn_eq, List.flatMap_cons, hopening, List.flatMap_append, List.flatMap_assoc,
    List.flatMap_eq_nil_iff.mpr hcases, List.flatMap_singleton, hclosing]
  rfl

/-- The function that reads a value of an integer enumeration does not convert to the type. -/
theorem keepsVisible_parseDeclaration (h : isIdentifier name = true) (hfmt : name ≠ "fmt.Errorf")
    (acceptEmpty : Bool) {values : List String}
    (hvalues : ∀ value ∈ values, isIdentifier (constant value) = true) :
    KeepsVisibleIff name (IntegerEnum.parseDeclaration name acceptEmpty values) True := by
  -- The values are looked up by their labels, so only the error at the end calls something.
  have hcalls : (switchOn "s" (IntegerEnum.parseCases acceptEmpty values)
      ++ ["return 0, " ++ invalidValue name "%q" "s"]).flatMap called = ["fmt.Errorf"] := by
    have hreturn : called ("return 0, " ++ invalidValue name "%q" "s") = ["fmt.Errorf"] := by
      have hname := (isBindable_of_isIdentifier h).not_mem (c := '(') rfl
      have hlast : lastName ("return 0, " ++ "fmt.Errorf") = "fmt.Errorf" :=
        lastName_append (by simp [isNameChar, isWordChar_space])
          (by simp [isNameChar, isWordChar_ascii])
      have hopening : "return 0, " ++ "fmt.Errorf(\"%w: " = "return 0, " ++ "fmt.Errorf" ++ "(" ++
          "\"%w: " := rfl
      have hsplit : "return 0, " ++ invalidValue name "%q" "s" =
          "return 0, " ++ "fmt.Errorf" ++ "(" ++
            ("\"%w: " ++ ("%q" ++ ("\", " ++
              ("ErrInvalid" ++ name ++ (", " ++ ("s" ++ ")")))))) := by
        rw [← String.append_assoc, ← hopening]
        unfold invalidValue invalidError
        simp only [String.append_assoc]
      rw [hsplit, called_append (by decide), hlast, called_eq_nil (by simp [hname])]
    rw [List.flatMap_append, flatMap_called_switchOn hvalues, List.flatMap_singleton, hreturn]
    rfl
  have hiff := keepsVisibleIff_parse h acceptEmpty
    (switchOn "s" (IntegerEnum.parseCases acceptEmpty values)
      ++ ["return 0, " ++ invalidValue name "%q" "s"])
  simp only [hcalls, List.mem_singleton, hfmt, false_implies] at hiff
  exact hiff

theorem integerTypes_bindable : ∀ backing ∈ integerTypes,
    IsBindable backing ∧ IsBindable (backingMethod backing) := by
  decide

/-- The function from the integer type converts its parameter to the type. -/
theorem keepsVisibleIff_fromDeclaration (h : isIdentifier name = true) {backing : String}
    (hbacking : backing ∈ integerTypes) :
    KeepsVisibleIff name (IntegerEnum.fromDeclaration name backing) (name ≠ "v") := by
  obtain ⟨htype, hmethod⟩ := integerTypes_bindable backing hbacking
  have hfrom : IsBindable (fromFunction name backing) :=
    isBindable_append (isBindable_append (isBindable_of_isIdentifier h) (by decide)) hmethod
  have hparameters : ∀ body, Function.parameters ⟨"func " ++ fromFunction name backing ++ "(v "
      ++ backing ++ ") (" ++ name ++ ", error)" ++ " \x7b", body⟩ = ["v"] := by
    intro body
    have hbound : bound ("v" ++ (" " ++ backing)) = ["v"] :=
      bound_append (by decide) (by simp [htype.not_mem (c := ',') rfl]) (by simp [separatesWords])
    have hheader : "func " ++ fromFunction name backing ++ "(v " ++ backing ++ ") (" ++ name
        ++ ", error)" ++ " \x7b" = "func " ++ fromFunction name backing ++ "(" ++
          (("v" ++ (" " ++ backing)) ++ (")" ++ (" (" ++ name ++ ", error) \x7b"))) := by
      simp [← String.toList_inj]
    rw [hheader, parameters_function hfrom (by simp [htype.not_mem (c := '(') rfl])
      (by simp [htype.not_mem (c := ')') rfl]), hbound]
  have hcalls : name ∈ (["converted := " ++ name ++ "(v)"]
      ++ guardValid "converted" ("0, " ++ invalidValue name "%d" "v")
      ++ ["return converted, nil"]).flatMap called := by
    have hconversion : called ("converted := " ++ name ++ "(v)") = name :: called "v)" :=
      called_append_identifier (by decide) (by decide) h "v)"
    simp [hconversion]
  have hcomment : ∀ l ∈ ["// " ++ fromFunction name backing ++ " converts v into a " ++ name
      ++ ", rejecting undeclared values."], l.toList.head? ≠ some 'f' := by simp
  have hblock := keepsVisibleIff_block name hcomment (by simp [List.IsPrefix]) hparameters
    (["converted := " ++ name ++ "(v)"]
      ++ guardValid "converted" ("0, " ++ invalidValue name "%d" "v")
      ++ ["return converted, nil"])
  simp only [hcalls, true_implies, List.mem_singleton] at hblock
  exact hblock

theorem keepsVisible_backingDeclaration (h : isIdentifier name = true) {backing : String}
    (hbacking : backing ∈ integerTypes) :
    KeepsVisibleIff name (IntegerEnum.backingDeclaration name backing) True := by
  have hmethod := (integerTypes_bindable backing hbacking).2
  exact keepsVisible_method h (by simp) (m := backingMethod backing) (t := " " ++ backing)
    (hmethod.not_mem rfl) (by simp [← String.toList_inj]) _

/-- The sections up to the last method that every file has. -/
theorem keepsVisible_integer_front {backing : Option String} {values : List String}
    (h : Compatible name (.int backing) values) (commandLine : String) (acceptEmpty : Bool) :
    ∃ front, IntegerEnum.sections commandLine name backing acceptEmpty values =
        front ++ unmarshalDeclaration name :: IntegerEnum.conversions name backing ∧
      ∀ s ∈ front, KeepsVisibleIff name s True := by
  have hname := h.isIdentifier_name
  have hfmt : name ≠ "fmt.Errorf" := by
    rintro rfl
    exact not_mem_of_isIdentifier hname (c := '.') (isWordChar_ascii (by decide)) (by decide)
  have hstring : KeepsVisibleIff name (IntegerEnum.stringDeclaration name) True :=
    keepsVisible_method hname (by simp) (m := "String") (t := " string") (by decide) (by decide) _
  have hvalidity : KeepsVisibleIff name (IntegerEnum.validityDeclaration name) True :=
    keepsVisible_method hname (head?_validityComment name) (m := "IsValid") (t := " bool")
      (by decide) (by decide) _
  refine ⟨preamble commandLine name "an integer-backed" (Kind.int backing).goType ++
    [group "const" (IntegerEnum.constantLines name values),
     IntegerEnum.tableDeclaration name values, errorDeclaration name "a string or number",
     valuesDeclaration name values, IntegerEnum.stringDeclaration name,
     IntegerEnum.validityDeclaration name, IntegerEnum.parseDeclaration name acceptEmpty values,
     marshalDeclaration name "%d" (receiver name) (IntegerEnum.tableEntry name)], rfl, ?_⟩
  rw [List.forall_mem_append]
  refine ⟨keepsVisible_preamble commandLine _ _, ?_⟩
  simp only [List.forall_mem_cons, List.not_mem_nil, false_implies, implies_true, and_true]
  exact ⟨keepsVisible_constGroup _, keepsVisible_tableDeclaration _,
    keepsVisible_errorDeclaration _, keepsVisible_valuesDeclaration hname values, hstring,
    hvalidity, keepsVisible_parseDeclaration hname hfmt acceptEmpty h.identifiers,
    keepsVisible_marshalDeclaration hname _ _ _⟩

/-- Only a function from the integer type converts its parameter to the type. -/
theorem keepsTypeVisible_integer {backing : Option String} {values : List String}
    (hbacking : (Kind.int backing).IsListed) (h : Compatible name (.int backing) values)
    (commandLine : String) (acceptEmpty : Bool) :
    KeepsTypeVisible name
      (fileLines (IntegerEnum.sections commandLine name backing acceptEmpty values) ++ [""]) ↔
        ¬((Kind.int backing).hasBacking = true ∧ name = "v") := by
  have hname := h.isIdentifier_name
  obtain ⟨front, hsections, hfront⟩ := keepsVisible_integer_front h commandLine acceptEmpty
  have hunmarshal := keepsVisible_unmarshalDeclaration hname (ne_of_reserved h (by decide))
  have hnil : ∀ s ∈ ([] : List (List String)), KeepsVisibleIff name s True := by simp
  rw [hsections]
  cases backing with
  | none =>
    have hall := keepsTypeVisible_fileLines hfront hunmarshal hnil
    simpa [Kind.hasBacking, IntegerEnum.conversions] using hall
  | some backing =>
    have hmethod := keepsVisible_backingDeclaration hname hbacking
    have hfrom := keepsVisibleIff_fromDeclaration hname hbacking
    have hbefore : ∀ s ∈ front ++ [unmarshalDeclaration name,
        IntegerEnum.backingDeclaration name backing], KeepsVisibleIff name s True := by
      rw [List.forall_mem_append]
      exact ⟨hfront, by simpa using ⟨hunmarshal, hmethod⟩⟩
    have hall := keepsTypeVisible_fileLines hbefore hfrom hnil
    rw [List.append_assoc] at hall
    simpa [Kind.hasBacking, IntegerEnum.conversions] using hall

end

/-- No parameter hides the type of an enumeration where a function converts to it, unless the type
is named like the parameter of the one function that does: `s` for strings, and `v` for a named
integer type. -/
theorem keepsTypeVisible_iff {commandLine token name text : String} {kind : Kind}
    {values : List String} {acceptEmpty : Bool} (hkind : Kind.parse token = .ok kind)
    (hcheck : check name kind values = .ok ())
    (hrender : Listing.render? ⟨commandLine, ⟨kind, name, values⟩, acceptEmpty⟩ = some text) :
    ∃ rest, text = header commandLine ++ "\n" ++ rest ∧
      (KeepsTypeVisible name (lines rest) ↔
        ¬(kind = .string ∧ name = "s") ∧ ¬(kind.hasBacking = true ∧ name = "v")) := by
  have hlisted := Kind.isListed_of_parse hkind
  have h := check_eq_ok_iff.mp hcheck
  rw [render?_eq, Option.map_eq_some_iff] at hrender
  obtain ⟨rest, hrest, rfl⟩ := hrender
  refine ⟨rest, rfl, ?_⟩
  -- The remainder is the same after any header, and no function starts in the header.
  obtain ⟨sections, hsections, hlines⟩ := header_cons_lines hlisted h hrest
  have hvisible : KeepsTypeVisible name (lines rest) ↔
      KeepsTypeVisible name (fileLines sections ++ [""]) := by
    rw [← hlines]
    rfl
  rw [hvisible]
  cases kind with
  | string =>
    rw [StringEnum.eq_sections_of_sections? hsections, keepsTypeVisible_string h]
    simp [Kind.hasBacking]
  | int backing =>
    obtain rfl := Option.some.inj hsections
    rw [keepsTypeVisible_integer hlisted h]
    simp

theorem keepsTypeVisible_iff_text : ∃ text rest,
    Listing.render? ⟨"go-enum int:byte text s v", ⟨.int "byte", "text", ["s", "v"]⟩, true⟩ =
      some text ∧
    text = header "go-enum int:byte text s v" ++ "\n" ++ rest ∧
    KeepsTypeVisible "text" (lines rest) := by
  have hkind : Kind.parse "int:byte" = .ok (.int "byte") := by decide
  have hcheck : check "text" (.int "byte") ["s", "v"] = .ok () := by decide
  have hrender : Listing.render?
      ⟨"go-enum int:byte text s v", ⟨.int "byte", "text", ["s", "v"]⟩, true⟩ = some _ := rfl
  obtain ⟨rest, htext, hvisible⟩ := keepsTypeVisible_iff hkind hcheck hrender
  exact ⟨_, rest, rfl, htext, hvisible.mpr (by decide)⟩

/-- The name `s` is accepted for strings, and then a function converts to the type `s` where its
parameter `s` hides the type. -/
theorem hidesType_s :
    check "s" .string ["A"] = .ok () ∧
    ∃ text, Listing.render? ⟨"go-enum string s A", ⟨.string, "s", ["A"]⟩, false⟩ = some text ∧
      ∃ f ∈ functionsIn (lines text), "s" ∈ f.calls ∧ "s" ∈ f.parameters := by
  have hcheck : check "s" .string ["A"] = .ok () := by decide
  have h := check_eq_ok_iff.mp hcheck
  have hwidth : ∀ value ∈ ["A"], (constant value).length ≤ maxWidth := by decide
  have hrender := StringEnum.render?_eq_some hwidth "go-enum string s A" "s" false
  have hhidden := (keepsTypeVisible_string h "go-enum string s A" false).not.mpr (by simp)
  rw [← lines_string (by decide) h] at hhidden
  refine ⟨hcheck, _, hrender, ?_⟩
  simpa [KeepsTypeVisible, Function.KeepsVisible] using hhidden

end GoEnum.Source

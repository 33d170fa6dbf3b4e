/-
  A string enumeration accepts just its values.

  What `IsValid` accepts is said indirectly: the labels of its switch are constants,
  and the const block assigns them their texts. The readers below resolve the labels
  by the text of the file alone. For a name and values that can be used together,
  the labels denote the values, each once, and the empty text if it is accepted
  (`AcceptsValues`).
-/
import GoEnum.Proofs.Lexeme.Label
import GoEnum.Proofs.Source.Reading
import GoEnum.Proofs.Source.StringEnum

namespace GoEnum.Source.StringEnum

open Text Naming Lexeme

/-! ### Readers -/

/-- Reads a line of the const block: the constant, padded with blanks, and what it denotes. -/
def readConstant? (name line : String) : Option (String × String) := do
  let rest ← stripStart? ("\t" ++ firstWord line) line
  let typed := String.ofList (rest.toList.dropWhile separatesWords)
  let text ← (stripStart? (name ++ " = ") typed).bind denoted?
  return (firstWord line, text)

/-- The constants of the const block and what they denote. -/
def constants? (name text : String) : Option (List (String × String)) := do
  (← constBlock? text).mapM (readConstant? name)

/-- The header of the method that tells valid values from others. -/
def validityHeader (name : String) : String :=
  method name "IsValid() bool"

/-- The labels of `IsValid`, if it holds for just these labels. -/
def validLabels? (name text : String) : Option (List Label) := do
  match ← body? (validityHeader name) text with
  | [opening, labels, accept, closing, refuse] =>
    if opening = "\tswitch " ++ receiver name ++ " \x7b" ∧ accept = "\t\treturn true"
        ∧ closing = "\t\x7d" ∧ refuse = "\treturn false" then
      (stripStart? "\tcase " labels).bind readLabels?
    else none
  | _ => none

/-- What a label denotes, given what the constants do. -/
def labelValue? (constants : List (String × String)) : Label → Option String
  | .text s => some s
  | .name s => constants.lookup s

/-- The texts of the values that `IsValid` holds for. -/
def validTexts? (name text : String) : Option (List String) := do
  let constants ← constants? name text
  (← validLabels? name text).mapM (labelValue? constants)

/-- The body of a function that converts a text and refuses it if `IsValid` does not hold for the
result. -/
def checkedConversion (name : String) : List String :=
  ["\tparsed := " ++ name ++ "(s)",
   "\tif !parsed.IsValid() \x7b",
   "\t\treturn \"\", " ++ invalidValue name "%q" "s",
   "\t\x7d",
   "\treturn parsed, nil"]

/-- The text of the value that a text is read as, or `none` if it is refused. -/
def parsed? (name text s : String) : Option (Option String) := do
  let texts ← validTexts? name text
  let body ← body? (parseHeader name) text
  if body = checkedConversion name then return if s ∈ texts then some s else none
  else none

/-! ### What is accepted -/

/-- The labels of `IsValid` for some values. -/
def acceptedLabels (acceptEmpty : Bool) (values : List String) : List Label :=
  (if acceptEmpty then [.text ""] else []) ++ values.map fun value => .name (constant value)

/-- The texts that are accepted. -/
def acceptedTexts (acceptEmpty : Bool) (values : List String) : List String :=
  (if acceptEmpty then [""] else []) ++ values

/-- A text that declares an enumeration with just some values. -/
structure AcceptsValues (name : String) (acceptEmpty : Bool) (values : List String)
    (text : String) : Prop where
  /-- The const block holds a line for each value, and the constants are padded to one width. -/
  constants : constBlock? text =
    some (values.map fun value => "\t" ++ constantLine name (constantWidth values) value)
  /-- The constants denote the values. -/
  denoted : constants? name text = some (values.map fun value => (constant value, value))
  /-- The labels of `IsValid` are the empty text, if it is accepted, and the constants. -/
  labels : validLabels? name text = some (acceptedLabels acceptEmpty values)
  /-- The function that lists all values lists the constants. -/
  listed : listed? name text = some (values.map constant)
  /-- `IsValid` holds for the values, and for the empty text if it is accepted. -/
  valid : validTexts? name text = some (acceptedTexts acceptEmpty values)
  /-- No two labels denote the same text. -/
  distinct : ∀ texts, validTexts? name text = some texts → texts.Nodup
  /-- Just what `IsValid` holds for is read, and as the value with this text. -/
  parsed : ∀ s, parsed? name text s =
    some (if s ∈ values ∨ (acceptEmpty ∧ s = "") then some s else none)

theorem nodup_acceptedTexts {values : List String} (hvalues : values.Nodup)
    (hempty : "" ∉ values) (acceptEmpty : Bool) : (acceptedTexts acceptEmpty values).Nodup := by
  cases acceptEmpty
  · simpa [acceptedTexts] using hvalues
  · simpa [acceptedTexts] using ⟨hempty, hvalues⟩

theorem mem_acceptedTexts {values : List String} {acceptEmpty : Bool} {s : String} :
    s ∈ acceptedTexts acceptEmpty values ↔ s ∈ values ∨ (acceptEmpty ∧ s = "") := by
  cases acceptEmpty
  · simp [acceptedTexts]
  · simp [acceptedTexts, or_comm]

/-! ### Lines and labels are read back -/

/-- Between the constant and the name of the type, there is nothing but blanks. -/
theorem constantLine_eq (name : String) (width : Nat) (value : String) :
    ∃ n, constantLine name width value = constant value ++
      (String.ofList (List.replicate n ' ' ++ [' ']) ++ (name ++ " = " ++ literal value)) := by
  refine ⟨width - (constant value).length, ?_⟩
  unfold constantLine
  simp [← String.toList_inj]

theorem firstWord_constantLine {value : String} (h : isIdentifier (constant value) = true)
    (name : String) (width : Nat) :
    firstWord ("\t" ++ constantLine name width value) = constant value := by
  obtain ⟨n, hline⟩ := constantLine_eq name width value
  rw [hline]
  apply firstWord_indented h
  cases n <;> simp [separatesWords, List.replicate_succ]

theorem readConstant?_constantLine {name value : String} (hname : isIdentifier name = true)
    (hvalue : isIdentifier (constant value) = true) (width : Nat) :
    readConstant? name ("\t" ++ constantLine name width value) = some (constant value, value) := by
  have hfirst := firstWord_constantLine hvalue name width
  obtain ⟨n, hline⟩ := constantLine_eq name width value
  have hspaces : ∀ c ∈ List.replicate n ' ' ++ [' '], separatesWords c = true := by
    intro c hc
    rcases List.mem_append.mp hc with hc | hc
    · rw [List.eq_of_mem_replicate hc]
      rfl
    · rw [List.mem_singleton.mp hc]
      rfl
  have hdrop : (String.ofList (List.replicate n ' ' ++ [' ']) ++ (name ++ " = "
      ++ literal value)).toList.dropWhile separatesWords =
        (name ++ " = " ++ literal value).toList := by
    rw [String.toList_append, String.toList_ofList, List.dropWhile_append_of_pos hspaces]
    cases hcs : name.toList with
    | nil => exact absurd hcs (toList_ne_nil_of_isIdentifier hname)
    | cons c cs =>
      have hc : separatesWords c = false := separatesWords_of_isIdentifier hname (by simp [hcs])
      simp [hcs, hc]
  rw [readConstant?, hfirst, hline, ← String.append_assoc, stripStart?_append]
  simp only [Option.bind_eq_bind, Option.bind_some, hdrop, String.ofList_toList,
    stripStart?_append, denoted?_literal, Option.pure_def]

theorem lookup_constants {values : List String} (h : (values.map constant).Nodup) :
    ∀ value ∈ values,
      (values.map fun v => (constant v, v)).lookup (constant value) = some value := by
  induction values with
  | nil => simp
  | cons v values ih =>
    obtain ⟨hv, hvalues⟩ := List.nodup_cons.mp h
    intro value hvalue
    rcases List.mem_cons.mp hvalue with rfl | hvalue
    · simp
    · have hne : constant value ≠ constant v := by
        intro heq
        exact hv (heq ▸ List.mem_map_of_mem hvalue)
      rw [List.map_cons, List.lookup_cons, beq_false_of_ne hne]
      exact ih hvalues value hvalue

/-- The labels denote the accepted texts. -/
theorem mapM_labelValue? {values : List String} (h : (values.map constant).Nodup)
    (acceptEmpty : Bool) :
    (acceptedLabels acceptEmpty values).mapM
        (labelValue? (values.map fun value => (constant value, value))) =
      some (acceptedTexts acceptEmpty values) := by
  have hconstants : (values.map fun value => Label.name (constant value)).mapM
      (labelValue? (values.map fun value => (constant value, value))) = some (values.map id) :=
    mapM_map_eq_some (lookup_constants h)
  rw [List.map_id] at hconstants
  cases acceptEmpty
  · simpa [acceptedLabels, acceptedTexts] using hconstants
  · simp [acceptedLabels, acceptedTexts, hconstants, labelValue?]

theorem validLabels_eq_intercalate {values : List String} (hne : values ≠ [])
    (acceptEmpty : Bool) : validLabels acceptEmpty values =
      ", ".intercalate ((acceptedLabels acceptEmpty values).map Label.written) := by
  have hmap : values.map constant ≠ [] := by simpa using hne
  have hwritten : (values.map fun value => Label.name (constant value)).map Label.written =
      values.map constant := by
    simp [Label.written, Function.comp_def]
  cases acceptEmpty
  · simp [validLabels, acceptedLabels, Label.written, Function.comp_def]
  · rw [acceptedLabels, if_pos rfl, List.singleton_append, List.map_cons, hwritten,
      String.intercalate_cons_of_ne_nil hmap]
    rfl

theorem readLabels?_validLabels {values : List String}
    (h : ∀ value ∈ values, isIdentifier (constant value) = true) (hne : values ≠ [])
    (acceptEmpty : Bool) : readLabels? (validLabels acceptEmpty values ++ ":") =
      some (acceptedLabels acceptEmpty values) := by
  rw [validLabels_eq_intercalate hne]
  apply readLabels?_written
  · intro label hlabel
    rcases List.mem_append.mp hlabel with hlabel | hlabel
    · cases acceptEmpty
      · simp at hlabel
      · rw [List.mem_singleton.mp hlabel]
        trivial
    · obtain ⟨value, hvalue, rfl⟩ := List.mem_map.mp hlabel
      exact isReadable_name_of_isIdentifier (h value hvalue)
  · simp [acceptedLabels, hne]

/-! ### The declarations of a generated file -/

section

variable {commandLine name text : String} {acceptEmpty : Bool} {values : List String}

/-- No function starts before the constants and the error. -/
theorem not_mem_before_functions {l : String} (hl : l.toList.head? = some 'f') :
    ∀ s ∈ preamble commandLine name "a string-backed" "string" ++
      [group "const" (values.map (constantLine name (constantWidth values))),
        errorDeclaration name "a string"], l ∉ s := by
  rw [List.forall_mem_append]
  refine ⟨not_mem_preamble (by simp [hl]) _ _ _ _, ?_⟩
  simp only [List.forall_mem_cons, List.not_mem_nil, false_implies, implies_true, and_true]
  exact ⟨not_mem_constGroup (by simp [hl]) _, not_mem_errorDeclaration hl _ _⟩

theorem constBlock?_of_lines
    (htext : lines text = fileLines (sections commandLine name acceptEmpty values) ++ [""]) :
    constBlock? text =
      some (values.map fun value => "\t" ++ constantLine name (constantWidth values) value) := by
  have hbefore := not_mem_preamble (show "const (".toList.head? ∉ _ by decide) commandLine name
    "a string-backed" "string"
  rw [constBlock?_eq_some htext hbefore, indent, List.map_map]
  rfl

theorem constants?_of_lines
    (htext : lines text = fileLines (sections commandLine name acceptEmpty values) ++ [""])
    (h : Compatible name .string values) :
    constants? name text = some (values.map fun value => (constant value, value)) := by
  have hread : ∀ value ∈ values,
      readConstant? name ("\t" ++ constantLine name (constantWidth values) value) =
        some (constant value, value) := by
    intro value hvalue
    exact readConstant?_constantLine h.isIdentifier_name (h.identifiers value hvalue) _
  simp only [constants?, constBlock?_of_lines htext, Option.bind_eq_bind, Option.bind_some]
  exact mapM_map_eq_some hread

theorem listed?_of_lines
    (htext : lines text = fileLines (sections commandLine name acceptEmpty values) ++ [""]) :
    listed? name text = some (values.map constant) := by
  have hhead : (valuesHeader name ++ " \x7b").toList.head? = some 'f' := by simp [valuesHeader]
  exact listed?_eq_some htext (not_mem_before_functions hhead)

/-- What stands before `IsValid`, if none of it is the header of a method. -/
theorem not_mem_before_validity {l : String} (hl : l.toList.head? = some 'f')
    (hvalues : l ≠ valuesHeader name ++ " \x7b")
    (hstring : l ≠ method name "String() string" ++ " \x7b") (commandLine : String)
    (values : List String) : ∀ s ∈ (preamble commandLine name "a string-backed" "string" ++
      [group "const" (values.map (constantLine name (constantWidth values))),
        errorDeclaration name "a string"]) ++ [valuesDeclaration name values,
        stringDeclaration name], l ∉ s := by
  rw [List.forall_mem_append]
  refine ⟨not_mem_before_functions hl, ?_⟩
  simp only [List.forall_mem_cons, List.not_mem_nil, false_implies, implies_true, and_true]
  exact ⟨not_mem_function hl (by simp) hvalues _, not_mem_function hl (by simp) hstring _⟩

theorem validLabels?_of_lines
    (htext : lines text = fileLines (sections commandLine name acceptEmpty values) ++ [""])
    (h : Compatible name .string values) (hne : values ≠ []) :
    validLabels? name text = some (acceptedLabels acceptEmpty values) := by
  have hhead : (validityHeader name ++ " \x7b").toList.head? = some 'f' := by
    unfold validityHeader method
    simp
  have hstring : validityHeader name ++ " \x7b" ≠ method name "String() string" ++ " \x7b" := by
    unfold validityHeader method
    simp [← String.toList_inj]
  have hvalues := method_ne_valuesHeader h.isIdentifier_name "IsValid() bool"
  have hbefore := not_mem_before_validity hhead hvalues hstring commandLine values
  have hcomment : validityHeader name ++ " \x7b" ∉ [validityComment name] := by
    rw [List.mem_singleton]
    rintro heq
    rw [heq, head?_validityComment] at hhead
    exact absurd hhead (by decide)
  have hbody : body? (validityHeader name) text =
      some (indent (switchOn (receiver name) [(validLabels acceptEmpty values, ["return true"])]
        ++ ["return false"])) :=
    body?_eq_some htext hbefore hcomment
  have hread := readLabels?_validLabels h.identifiers hne acceptEmpty
  have hlabels : "\t" ++ ("case " ++ validLabels acceptEmpty values ++ ":") =
      "\tcase " ++ (validLabels acceptEmpty values ++ ":") := by
    simp [← String.toList_inj]
  have hopening : "\t" ++ ("switch " ++ receiver name ++ " \x7b") =
      "\tswitch " ++ receiver name ++ " \x7b" := by
    simp [← String.toList_inj]
  rw [validLabels?, hbody]
  simp only [switchOn, indent, List.flatMap_singleton, List.map_cons, List.map_nil,
    List.cons_append, List.nil_append, Option.bind_eq_bind, Option.bind_some, hlabels, hopening,
    stripStart?_append, hread]
  rfl

theorem validTexts?_of_lines
    (htext : lines text = fileLines (sections commandLine name acceptEmpty values) ++ [""])
    (h : Compatible name .string values) (hne : values ≠ []) :
    validTexts? name text = some (acceptedTexts acceptEmpty values) := by
  simp only [validTexts?, constants?_of_lines htext h, validLabels?_of_lines htext h hne,
    Option.bind_eq_bind, Option.bind_some]
  exact mapM_labelValue? h.distinct acceptEmpty

theorem parsed?_of_lines
    (htext : lines text = fileLines (sections commandLine name acceptEmpty values) ++ [""])
    (h : Compatible name .string values) (hne : values ≠ []) (s : String) :
    parsed? name text s =
      some (if s ∈ values ∨ (acceptEmpty ∧ s = "") then some s else none) := by
  have hhead : (parseHeader name ++ " \x7b").toList.head? = some 'f' := by
    unfold parseHeader
    simp
  have hvalidity : parseHeader name ++ " \x7b" ∉ validityDeclaration name acceptEmpty values :=
    not_mem_function hhead (head?_validityComment name) (parseHeader_ne_method name _) _
  have hbefore : ∀ s ∈ ((preamble commandLine name "a string-backed" "string" ++
      [group "const" (values.map (constantLine name (constantWidth values))),
        errorDeclaration name "a string"]) ++ [valuesDeclaration name values,
        stringDeclaration name]) ++ [validityDeclaration name acceptEmpty values],
        parseHeader name ++ " \x7b" ∉ s := by
    rw [List.forall_mem_append, List.forall_mem_singleton]
    exact ⟨not_mem_before_validity hhead (parseHeader_ne_valuesHeader name)
      (parseHeader_ne_method name _) _ _, hvalidity⟩
  have hbody : body? (parseHeader name) text = some (checkedConversion name) := by
    have hindent := body?_eq_some htext hbefore (parseHeader_not_mem_parseComment name acceptEmpty)
    refine hindent.trans (congrArg some ?_)
    simp [checkedConversion, guardValid, block, enclosed, indent, ← String.toList_inj]
  simp only [parsed?, validTexts?_of_lines htext h hne, hbody, Option.bind_eq_bind,
    Option.bind_some, if_true, mem_acceptedTexts, Option.pure_def]

end

/-- For a name and values that can be used together, and constants that can be padded, the
generated file accepts just the values. -/
theorem acceptsValues {commandLine name : String} {values : List String}
    (hline : OneLine commandLine) (hne : values ≠ [])
    (hcheck : check name .string values = .ok ())
    (hwidth : ∀ value ∈ values, (constant value).length ≤ maxWidth) (acceptEmpty : Bool) :
    ∃ text, Listing.render? ⟨commandLine, ⟨.string, name, values⟩, acceptEmpty⟩ = some text ∧
      AcceptsValues name acceptEmpty values text := by
  have h := check_eq_ok_iff.mp hcheck
  have htext := lines_string hline h acceptEmpty
  have hvalid := validTexts?_of_lines htext h hne
  refine ⟨_, render?_eq_some hwidth commandLine name acceptEmpty,
    ⟨constBlock?_of_lines htext, constants?_of_lines htext h, validLabels?_of_lines htext h hne,
      listed?_of_lines htext, hvalid, ?distinct, parsed?_of_lines htext h hne⟩⟩
  case distinct =>
    intro texts hread
    obtain rfl := Option.some.inj (hvalid.symm.trans hread)
    exact nodup_acceptedTexts h.nodup h.empty_not_mem acceptEmpty

theorem acceptsValues_size : ∃ text, Listing.render?
    ⟨"go-enum string Size small Medium", ⟨.string, "Size", ["small", "Medium"]⟩, true⟩ =
      some text ∧ AcceptsValues "Size" true ["small", "Medium"] text :=
  acceptsValues (by decide) (by decide) (by decide +kernel) (by decide +kernel) true

end GoEnum.Source.StringEnum

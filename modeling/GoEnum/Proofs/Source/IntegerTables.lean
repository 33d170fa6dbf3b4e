/-
  The tables of an integer enumeration agree.

  Four places of the generated file go through the values: the const block, the
  table of names, the list of all values and the switch of the function that reads
  a value. The readers below go by the text alone. For a name and values that can
  be used together they find the same values, at the same positions, in all four
  places, so what is read from the name in a slot of the table is the constant with
  the number of that slot (`TablesAgree`).
-/
import GoEnum.Proofs.Lexeme.Label
import GoEnum.Proofs.Source.IntegerEnum
import GoEnum.Proofs.Source.Reading

namespace GoEnum.Source.IntegerEnum

open Text Naming Lexeme

/-! ### Readers -/

/-- The line that the table of names starts with. -/
def tableOpening (name : String) : String :=
  "var " ++ namesTable name ++ " = [...]string" ++ "\x7b"

/-- The texts in the table of names. -/
def tableNames? (name text : String) : Option (List String) := do
  let body ← between? (tableOpening name) "\x7d" (lines text)
  body.mapM fun line => (unwrap? "\t" "," line).bind denoted?

/-- The text of a label that is a literal. -/
def labelText? : Label → Option String
  | .text s => some s
  | .name _ => none

/-- Reads pairs of a line with labels and the line below it that returns a constant. -/
def readCases? : List String → Option (List (List String × String))
  | [] => some []
  | [_] => none
  | labelLine :: returnLine :: rest => do
    let labels ← (stripStart? "\tcase " labelLine).bind readLabels?
    let texts ← labels.mapM labelText?
    let returned ← unwrap? "\t\treturn " ", nil" returnLine
    return (texts, returned) :: (← readCases? rest)

/-- The cases of the function that reads a value: their labels and the constants they return. -/
def parseCases? (name text : String) : Option (List (List String × String)) := do
  let body ← body? (parseHeader name) text
  readCases? (← between? "\tswitch s \x7b" "\t\x7d" body)

/-- The constant that a text is read as. -/
def parsed? (name text s : String) : Option String := do
  let cases ← parseCases? name text
  let chosen ← cases.find? fun c => c.1.contains s
  return chosen.2

/-- The number of a constant: the lines of the const block count up from zero. -/
def number? (text name : String) : Option Nat := do
  (← constBlock? text).findIdx? fun line => firstWord line == name

/-! ### What the tables hold -/

/-- The cases for some values. The empty text, if it is accepted, is read as the first value. -/
def caseTable (acceptEmpty : Bool) (values : List String) : List (List String × String) :=
  values.mapIdx fun i value =>
    (if i = 0 ∧ acceptEmpty then [value, ""] else [value], constant value)

/-- The lines of the const block for some values. -/
def countedLines (name : String) (values : List String) : List String :=
  values.mapIdx fun i value =>
    if i = 0 then "\t" ++ constant value ++ " " ++ name ++ " = iota" else "\t" ++ constant value

/-- A text whose tables are those for the values of an enumeration. -/
structure TablesAgree (name : String) (acceptEmpty : Bool) (values : List String) (text : String) :
    Prop where
  /-- The const block counts up from the first constant. -/
  constants : constBlock? text = some (countedLines name values)
  /-- The table of names holds the values. -/
  names : tableNames? name text = some values
  /-- The function that reads a value has one case for each. -/
  cases : parseCases? name text = some (caseTable acceptEmpty values)
  /-- No label stands twice. -/
  distinct : ∀ cases, parseCases? name text = some cases → (cases.flatMap Prod.fst).Nodup
  /-- The function that lists all values lists the constants. -/
  listed : listed? name text = some (values.map constant)
  /-- What is read from the name in a slot is the constant with the number of the slot. -/
  parsed : ∀ i < values.length, ∃ slot c, (tableNames? name text).bind (·[i]?) = some slot ∧
    parsed? name text slot = some c ∧ number? text c = some i

theorem mapIdx_const {α β : Type} (f : α → β) (items : List α) :
    items.mapIdx (fun _ => f) = items.map f := by
  apply List.ext_getElem
  · simp
  · simp

theorem caseTable_cons (acceptEmpty : Bool) (value : String) (values : List String) :
    caseTable acceptEmpty (value :: values) =
      (if acceptEmpty then [value, ""] else [value], constant value) ::
        values.map fun v => ([v], constant v) := by
  simp [caseTable, List.mapIdx_cons, mapIdx_const]

theorem indent_constantLines (name : String) (values : List String) :
    indent (constantLines name values) = countedLines name values := by
  cases values with
  | nil => rfl
  | cons value values =>
    simp [countedLines, constantLines, indent, List.mapIdx_cons, mapIdx_const, String.append_assoc]

/-- The labels of all cases are the values, and the empty text if it is accepted. -/
theorem nodup_labels {values : List String} (hvalues : values.Nodup) (hempty : "" ∉ values)
    (acceptEmpty : Bool) : ((caseTable acceptEmpty values).flatMap Prod.fst).Nodup := by
  cases values with
  | nil => simp [caseTable]
  | cons value values =>
    obtain ⟨hvalue, hrest⟩ := List.nodup_cons.mp hvalues
    obtain ⟨hfirst, hempty⟩ : "" ≠ value ∧ "" ∉ values := by simpa using hempty
    have hsingle : (values.map fun v => ([v], constant v)).flatMap Prod.fst = values := by
      simp [List.flatMap_map]
    rw [caseTable_cons, List.flatMap_cons, hsingle]
    cases acceptEmpty
    · simpa using ⟨hvalue, hrest⟩
    · simpa using ⟨⟨hfirst.symm, hvalue⟩, hempty, hrest⟩

/-- The first case with a value among its labels returns the constant for this value. -/
theorem find?_caseTable {values : List String} (hvalues : values.Nodup) (hempty : "" ∉ values)
    (acceptEmpty : Bool) {i : Nat} (hi : i < values.length) :
    ∃ labels, ((caseTable acceptEmpty values).find? fun c => c.1.contains values[i]) =
      some (labels, constant values[i]) := by
  have hlength : i < (caseTable acceptEmpty values).length := by simpa [caseTable] using hi
  have hmem : values[i] ≠ "" := fun heq => hempty (heq ▸ List.getElem_mem hi)
  refine ⟨(caseTable acceptEmpty values)[i].1, ?_⟩
  rw [List.find?_eq_some_iff_getElem]
  refine ⟨?_, i, hlength, ?_, ?_⟩
  · simp only [caseTable, List.getElem_mapIdx]
    split_ifs <;> simp
  · simp [caseTable]
  · -- The labels of an earlier case are another value and perhaps the empty text.
    intro j hj
    have hne : values[i] ≠ values[j] := by
      intro heq
      exact absurd ((List.Nodup.getElem_inj_iff hvalues).mp heq) (by omega)
    simp only [caseTable, List.getElem_mapIdx]
    split_ifs <;> simp [hne, hmem]

/-- The first words of the lines of the const block are the constants. -/
theorem map_firstWord_countedLines {values : List String}
    (h : ∀ value ∈ values, isIdentifier (constant value) = true) (name : String) :
    (countedLines name values).map firstWord = values.map constant := by
  apply List.ext_getElem
  · simp [countedLines]
  · intro i _ hi
    have hi : i < values.length := by rwa [List.length_map] at hi
    have hidentifier := h values[i] (List.getElem_mem hi)
    simp only [countedLines, List.getElem_map, List.getElem_mapIdx]
    split_ifs
    · rw [String.append_assoc, String.append_assoc, String.append_assoc]
      exact firstWord_indented hidentifier (by simp [separatesWords])
    · have hplain := firstWord_indented hidentifier (show ∀ c ∈ "".toList.head?, _ by simp)
      rwa [String.append_empty] at hplain

/-- The const block gives each constant the number of its line. -/
theorem findIdx?_countedLines {name : String} {values : List String}
    (hidentifiers : ∀ value ∈ values, isIdentifier (constant value) = true)
    (hdistinct : (values.map constant).Nodup) {i : Nat} (hi : i < values.length) :
    (countedLines name values).findIdx? (fun line => firstWord line == constant values[i]) =
      some i := by
  have hwords : (countedLines name values).findIdx?
      (fun line => firstWord line == constant values[i]) =
        (values.map constant).findIdx? (· == constant values[i]) := by
    rw [← map_firstWord_countedLines hidentifiers name, List.findIdx?_map]
    rfl
  have hi' : i < (values.map constant).length := by rwa [List.length_map]
  rw [hwords, List.findIdx?_eq_some_iff_getElem]
  refine ⟨hi', by simp, ?_⟩
  -- An earlier line with this first word would declare the constant twice.
  intro j hj heq
  have hij : (values.map constant)[j] = (values.map constant)[i] := by simpa using heq
  exact absurd ((List.Nodup.getElem_inj_iff hdistinct).mp hij) (by omega)

/-! ### The tables are read back -/

/-- The lines of some cases: the labels on one line, and below it what is returned. -/
def caseLines (cases : List (List String × String)) : List String :=
  cases.flatMap fun c =>
    ["\tcase " ++ (", ".intercalate (c.1.map literal) ++ ":"), "\t\treturn " ++ c.2 ++ ", nil"]

theorem readCases?_caseLines {cases : List (List String × String)}
    (h : ∀ c ∈ cases, c.1 ≠ []) : readCases? (caseLines cases) = some cases := by
  induction cases with
  | nil => rfl
  | cons c cases ih =>
    obtain ⟨labels, returned⟩ := c
    obtain ⟨hlabels, hcases⟩ := List.forall_mem_cons.mp h
    have hread : readLabels? (", ".intercalate (labels.map literal) ++ ":") =
        some (labels.map Label.text) := by
      have hwritten : labels.map literal = (labels.map Label.text).map Label.written := by
        simp [Label.written, Function.comp_def]
      rw [hwritten]
      apply readLabels?_written
      · intro label hlabel
        obtain ⟨s, -, rfl⟩ := List.mem_map.mp hlabel
        trivial
      · simpa using hlabels
    have htexts : (labels.map Label.text).mapM labelText? = some labels := by
      have hall := mapM_map_eq_some fun s (_ : s ∈ labels) =>
        show labelText? (Label.text s) = some (id s) from rfl
      rwa [List.map_id] at hall
    rw [caseLines, List.flatMap_cons, ← caseLines]
    simp only [List.cons_append, List.nil_append, readCases?]
    rw [stripStart?_append, Option.bind_some, hread, unwrap?_append, ih hcases]
    simp only [Option.bind_eq_bind, Option.bind_some, htexts]
    rfl

theorem indent_parseCase {labels : List String} {more value : String}
    (h : ", ".intercalate (labels.map literal) = literal value ++ more) :
    indent (("case " ++ (parseCase more value).1 ++ ":") :: indent (parseCase more value).2) =
      caseLines [(labels, constant value)] := by
  simp [parseCase, indent, caseLines, h, ← String.toList_inj]

/-- The lines of the switch are those of its cases. -/
theorem indent_parseCases (acceptEmpty : Bool) (values : List String) :
    indent ((parseCases acceptEmpty values).flatMap fun c =>
      ("case " ++ c.1 ++ ":") :: indent c.2) = caseLines (caseTable acceptEmpty values) := by
  cases values with
  | nil => rfl
  | cons value values =>
    have hfirst : ", ".intercalate ((if acceptEmpty then [value, ""] else [value]).map literal) =
        literal value ++ if acceptEmpty then ", \"\"" else "" := by
      cases acceptEmpty
      · simp
      · rw [if_pos rfl, if_pos rfl, show ", \"\"" = ", " ++ literal "" from rfl]
        simp [String.append_assoc]
    have hrest : indent ((values.map (parseCase "")).flatMap fun c =>
        ("case " ++ c.1 ++ ":") :: indent c.2) =
          caseLines (values.map fun v => ([v], constant v)) := by
      induction values with
      | nil => rfl
      | cons v values ih =>
        have hv : ", ".intercalate ([v].map literal) = literal v ++ "" := by simp
        rw [List.map_cons, List.flatMap_cons, indent, List.map_append, ← indent, ← indent, ih,
          indent_parseCase hv]
        rfl
    rw [parseCases, List.flatMap_cons, indent, List.map_append, ← indent, ← indent, hrest,
      indent_parseCase hfirst, caseTable_cons]
    rfl

theorem parseCases?_eq_some {text name : String} {acceptEmpty : Bool} {values : List String}
    {before after : List (List String)}
    (htext : lines text =
      fileLines (before ++ parseDeclaration name acceptEmpty values :: after) ++ [""])
    (hbefore : ∀ s ∈ before, parseHeader name ++ " \x7b" ∉ s) :
    parseCases? name text = some (caseTable acceptEmpty values) := by
  have hbody := body?_eq_some htext hbefore (parseHeader_not_mem_parseComment name acceptEmpty)
  have hswitch := between?_switchOn "s" (parseCases acceptEmpty values)
    ["return 0, " ++ invalidValue name "%q" "s"]
  rw [indent_parseCases] at hswitch
  have hlabels : ∀ c ∈ caseTable acceptEmpty values, c.1 ≠ [] := by
    intro c hc
    simp only [caseTable, List.mem_mapIdx] at hc
    obtain ⟨i, hi, rfl⟩ := hc
    dsimp only
    split_ifs <;> simp
  simp only [parseCases?, hbody, Option.bind_eq_bind, Option.bind_some]
  exact (congrArg (·.bind readCases?) hswitch).trans (readCases?_caseLines hlabels)

theorem tableNames?_eq_some {text name : String} {values : List String}
    {before after : List (List String)}
    (htext : lines text = fileLines (before ++ tableDeclaration name values :: after) ++ [""])
    (hbefore : ∀ s ∈ before, tableOpening name ∉ s) : tableNames? name text = some values := by
  have hne : tableOpening name ≠ "" := by
    simp [tableOpening, ← String.toList_inj]
  have hnone : tableOpening name ∉ ([] : List String) := List.not_mem_nil
  have hfound : between? (tableOpening name) "\x7d" (lines text) =
      some (indent ((values.map literal).map (· ++ ","))) := by
    rw [htext]
    exact between?_fileLines_enclosed hne hbefore hnone (by decide) _ after [""]
  have hread : ∀ value ∈ values, (unwrap? "\t" "," ("\t" ++ (literal value ++ ","))).bind denoted? =
      some (id value) := by
    intro value _
    rw [← String.append_assoc, unwrap?_append, Option.bind_some, denoted?_literal, id]
  have hall : (values.map fun value => "\t" ++ (literal value ++ ",")).mapM
      (fun line => (unwrap? "\t" "," line).bind denoted?) = some (values.map id) :=
    mapM_map_eq_some hread
  rw [List.map_id] at hall
  rw [tableNames?, hfound]
  simp only [indent, List.map_map, Option.bind_eq_bind, Option.bind_some]
  exact hall

/-! ### The tables of a generated file -/

section

variable {commandLine name text : String} {backing : Option String} {acceptEmpty : Bool}
variable {values : List String}

theorem constBlock?_of_lines
    (htext : lines text =
      fileLines (sections commandLine name backing acceptEmpty values) ++ [""]) :
    constBlock? text = some (countedLines name values) := by
  have hbefore := not_mem_preamble (show "const (".toList.head? ∉ _ by decide) commandLine name
    "an integer-backed" (Kind.int backing).goType
  rw [← indent_constantLines]
  exact constBlock?_eq_some htext hbefore

theorem tableNames?_of_lines
    (htext : lines text =
      fileLines (sections commandLine name backing acceptEmpty values) ++ [""]) :
    tableNames? name text = some values := by
  have hhead : (tableOpening name).toList.head? = some 'v' := by simp [tableOpening]
  have hbefore : ∀ s ∈ preamble commandLine name "an integer-backed" (Kind.int backing).goType ++
      [group "const" (constantLines name values)], tableOpening name ∉ s := by
    rw [List.forall_mem_append, List.forall_mem_singleton]
    exact ⟨not_mem_preamble (by simp [hhead]) _ _ _ _, not_mem_constGroup (by simp [hhead]) _⟩
  exact tableNames?_eq_some htext hbefore

/-- No function starts before the table of names and the error. -/
theorem not_mem_before_functions {l : String} (hl : l.toList.head? = some 'f') :
    ∀ s ∈ preamble commandLine name "an integer-backed" (Kind.int backing).goType ++
      [group "const" (constantLines name values), tableDeclaration name values,
        errorDeclaration name "a string or number"], l ∉ s := by
  have htable : l ∉ tableDeclaration name values := by
    have hindent : ∀ body, l ∉ indent body := not_mem_indent (by simp [hl])
    have hne : l ≠ tableOpening name ∧ l ≠ "\x7d" := by
      constructor
      · rintro rfl
        simp [tableOpening] at hl
      · rintro rfl
        exact absurd hl (by decide)
    simpa [tableDeclaration, composite, enclosed, hindent, tableOpening] using hne
  rw [List.forall_mem_append]
  refine ⟨not_mem_preamble (by simp [hl]) _ _ _ _, ?_⟩
  simp only [List.forall_mem_cons, List.not_mem_nil, false_implies, implies_true, and_true]
  exact ⟨not_mem_constGroup (by simp [hl]) _, htable, not_mem_errorDeclaration hl _ _⟩

theorem listed?_of_lines
    (htext : lines text =
      fileLines (sections commandLine name backing acceptEmpty values) ++ [""]) :
    listed? name text = some (values.map constant) := by
  have hhead : (valuesHeader name ++ " \x7b").toList.head? = some 'f' := by simp [valuesHeader]
  exact listed?_eq_some htext (not_mem_before_functions hhead)

theorem parseCases?_of_lines
    (htext : lines text =
      fileLines (sections commandLine name backing acceptEmpty values) ++ [""]) :
    parseCases? name text = some (caseTable acceptEmpty values) := by
  have hhead : (parseHeader name ++ " \x7b").toList.head? = some 'f' := by
    unfold parseHeader
    simp
  have hfunctions : ∀ s ∈ [valuesDeclaration name values, stringDeclaration name,
      validityDeclaration name], parseHeader name ++ " \x7b" ∉ s := by
    simp only [List.forall_mem_cons, List.not_mem_nil, false_implies, implies_true, and_true]
    refine ⟨?_, ?_, ?_⟩
    · exact not_mem_function hhead (by simp) (parseHeader_ne_valuesHeader name) _
    · exact not_mem_function hhead (by simp) (parseHeader_ne_method name _) _
    · exact not_mem_function hhead (head?_validityComment name) (parseHeader_ne_method name _) _
  have hbefore : ∀ s ∈ (preamble commandLine name "an integer-backed" (Kind.int backing).goType ++
      [group "const" (constantLines name values), tableDeclaration name values,
        errorDeclaration name "a string or number"]) ++ [valuesDeclaration name values,
        stringDeclaration name, validityDeclaration name], parseHeader name ++ " \x7b" ∉ s :=
    List.forall_mem_append.mpr ⟨not_mem_before_functions hhead, hfunctions⟩
  exact parseCases?_eq_some htext hbefore

theorem tablesAgree_of_lines
    (htext : lines text =
      fileLines (sections commandLine name backing acceptEmpty values) ++ [""])
    (h : Compatible name (.int backing) values) : TablesAgree name acceptEmpty values text := by
  have hconstants := constBlock?_of_lines htext
  have hnames := tableNames?_of_lines htext
  have hcases := parseCases?_of_lines htext
  refine ⟨hconstants, hnames, hcases, ?distinct, listed?_of_lines htext, ?parsed⟩
  case distinct =>
    intro cases hread
    obtain rfl := Option.some.inj (hcases.symm.trans hread)
    exact nodup_labels h.nodup h.empty_not_mem acceptEmpty
  case parsed =>
    intro i hi
    obtain ⟨labels, hfind⟩ := find?_caseTable h.nodup h.empty_not_mem acceptEmpty hi
    refine ⟨values[i], constant values[i], ?_, ?_, ?_⟩
    · rw [hnames, Option.bind_some, List.getElem?_eq_getElem hi]
    · simp only [parsed?, hcases, Option.bind_eq_bind, Option.bind_some, hfind, Option.pure_def]
    · simp only [number?, hconstants, Option.bind_eq_bind, Option.bind_some]
      exact findIdx?_countedLines h.identifiers h.distinct hi

end

/-- For a name and values that can be used together, the tables of the generated file agree. -/
theorem tablesAgree {commandLine name : String} {backing : Option String} {values : List String}
    (hline : OneLine commandLine) (hbacking : (Kind.int backing).IsListed)
    (hcheck : check name (.int backing) values = .ok ()) (acceptEmpty : Bool) :
    ∃ text, Listing.render? ⟨commandLine, ⟨.int backing, name, values⟩, acceptEmpty⟩ = some text ∧
      TablesAgree name acceptEmpty values text := by
  have h := check_eq_ok_iff.mp hcheck
  exact ⟨_, rfl, tablesAgree_of_lines (lines_integer hline hbacking h acceptEmpty) h⟩

theorem tablesAgree_size : ∃ text, Listing.render?
    ⟨"go-enum int:uint8 Size small Medium", ⟨.int "uint8", "Size", ["small", "Medium"]⟩, true⟩ =
      some text ∧ TablesAgree "Size" true ["small", "Medium"] text :=
  tablesAgree (by decide) (by decide) (by decide +kernel) true

end GoEnum.Source.IntegerEnum

/-
  The columns of a const block with strings.

  The constants are padded to the length of the longest of them
  (`isGreatest_constantWidth`), so the names of the type stand below one another,
  one blank after the longest constant (`isTight_fillGap`). This needs nothing of
  the values but that their constants can be padded: the block has a line for each
  value, whatever the value is.
-/
import GoEnum.Proofs.Source.StringValues
import Mathlib.Order.Bounds.Basic

namespace GoEnum.Source.StringEnum

open Text Naming Lexeme

/-! ### The greatest length -/

theorem foldl_max_mem {ns : List Nat} : ∀ start : Nat,
    ns.foldl max start = start ∨ ns.foldl max start ∈ ns := by
  induction ns with
  | nil => intro start; exact Or.inl rfl
  | cons n ns ih =>
    intro start
    rw [List.foldl_cons]
    rcases ih (max start n) with h | h
    · rw [h]
      rcases Nat.le_total n start with hle | hle
      · exact Or.inl (Nat.max_eq_left hle)
      · exact Or.inr (List.mem_cons.mpr (Or.inl (Nat.max_eq_right hle)))
    · exact Or.inr (List.mem_cons_of_mem n h)

/-- Some constant has the length that all are padded to. -/
theorem exists_length_eq_constantWidth {values : List String} (hne : values ≠ []) :
    ∃ value ∈ values, (constant value).length = constantWidth values := by
  have hmem : constantWidth values ∈ values.map fun value => (constant value).length := by
    rcases foldl_max_mem 0 with h | h
    · -- No constant is longer than nothing, so the first one is empty.
      obtain ⟨value, hvalue⟩ := List.exists_mem_of_ne_nil values hne
      have hle := le_constantWidth hvalue
      rw [constantWidth, h] at hle ⊢
      exact List.mem_map.mpr ⟨value, hvalue, Nat.le_zero.mp hle⟩
    · exact h
  exact List.mem_map.mp hmem

theorem isGreatest_constantWidth {values : List String} (hne : values ≠ []) :
    IsGreatest {n | ∃ value ∈ values, (constant value).length = n} (constantWidth values) := by
  refine ⟨exists_length_eq_constantWidth hne, ?_⟩
  rintro n ⟨value, hvalue, rfl⟩
  exact le_constantWidth hvalue

/-- The width is that of the values in any order. -/
theorem constantWidth_perm {values others : List String} (h : others.Perm values) :
    constantWidth others = constantWidth values :=
  Nat.le_antisymm (constantWidth_le fun _ hvalue => le_constantWidth (h.mem_iff.mp hvalue))
    (constantWidth_le fun _ hvalue => le_constantWidth (h.mem_iff.mpr hvalue))

/-! ### The columns -/

/-- What stands before the name of the type in the line of a value, with a number of blanks after
the constant. -/
def beforeType (gap : Nat) (value : String) : String :=
  "\t" ++ constant value ++ String.ofList (List.replicate gap ' ')

/-- The line of a value, with a number of blanks before the name of the type. -/
def spacedLine (name : String) (gap : Nat) (value : String) : String :=
  beforeType gap value ++ name ++ " = " ++ literal value

/-- A number of blanks for each value that puts the names of the type below one another, and no
further to the right than it has to be. -/
structure IsTight (values : List String) (gap : String → Nat) : Prop where
  /-- Each constant is followed by a blank. -/
  separated : ∀ value ∈ values, 1 ≤ gap value
  /-- The same number of characters stands before each name of the type: a tab, as many as the
  longest constant has, and a blank. -/
  column : ∀ value ∈ values, (beforeType (gap value) value).length = constantWidth values + 2
  /-- Some constant is followed by just one blank. -/
  touching : ∃ value ∈ values, gap value = 1

/-- The blanks that a constant lacks to the greatest length, and one more. -/
def fillGap (values : List String) (value : String) : Nat :=
  constantWidth values - (constant value).length + 1

theorem isTight_fillGap {values : List String} (hne : values ≠ []) :
    IsTight values (fillGap values) := by
  refine ⟨fun value _ => Nat.le_add_left _ _, ?column, ?touching⟩
  case column =>
    intro value hvalue
    have hle := le_constantWidth hvalue
    have htab : "\t".length = 1 := rfl
    simp only [beforeType, fillGap, String.length_append, String.length_ofList,
      List.length_replicate, htab]
    omega
  case touching =>
    obtain ⟨value, hvalue, hlength⟩ := exists_length_eq_constantWidth hne
    exact ⟨value, hvalue, by rw [fillGap, hlength, Nat.sub_self]⟩

theorem tab_constantLine (name : String) (values : List String) (value : String) :
    "\t" ++ constantLine name (constantWidth values) value =
      spacedLine name (fillGap values value) value := by
  simp [constantLine, spacedLine, beforeType, fillGap, List.replicate_succ', ← String.toList_inj]

/-! ### The const block -/

/-- The text before the const block. -/
def textBeforeBlock (commandLine name : String) : String :=
  fileText (preamble commandLine name "a string-backed" "string") ++ "\n\n"

theorem intercalate_group (keyword : String) (body : List String) :
    "\n".intercalate (group keyword body) =
      keyword ++ " (\n" ++ closedLines (indent body) ++ ")" := by
  have hjoin : "\n".intercalate (group keyword body) ++ "\n" =
      keyword ++ " (\n" ++ closedLines (indent body) ++ ")" ++ "\n" := by
    rw [intercalate_append_lineFeed (by simp [group, enclosed]), group, enclosed, closedLines,
      closedLines_append]
    simp [closedLines, ← String.toList_inj]
  exact String.append_left_inj "\n" |>.mp hjoin

/-- The file has the block below the declaration of the type. -/
theorem exists_render?_eq {values : List String}
    (h : ∀ value ∈ values, (constant value).length ≤ maxWidth)
    (commandLine name : String) (acceptEmpty : Bool) :
    ∃ after, Listing.render? ⟨commandLine, ⟨.string, name, values⟩, acceptEmpty⟩ =
      some (textBeforeBlock commandLine name ++ "const (\n"
        ++ closedLines (values.map fun value => spacedLine name (fillGap values value) value)
        ++ ")\n" ++ after) := by
  obtain ⟨rest, hrest, hparts⟩ : ∃ rest, fileLines rest ≠ [] ∧
      sections commandLine name acceptEmpty values =
        preamble commandLine name "a string-backed" "string" ++
          group "const" (values.map (constantLine name (constantWidth values))) :: rest :=
    ⟨_, fileLines_ne_nil (by simp [errorDeclaration]) _, rfl⟩
  have hpreamble : fileLines (preamble commandLine name "a string-backed" "string") ≠ [] :=
    fileLines_ne_nil (by simp [marker]) _
  have hlines : indent (values.map (constantLine name (constantWidth values))) =
      values.map fun value => spacedLine name (fillGap values value) value := by
    rw [indent, List.map_map]
    exact List.map_congr_left fun value _ => tab_constantLine name values value
  have hend := endLine_fileText (getLast?_sections commandLine name acceptEmpty values)
    getLast?_unmarshalDeclaration (by decide) (by decide)
  rw [render?_eq_some h, hend, hparts,
    fileText_append_cons hpreamble (by simp [group, enclosed]) hrest, intercalate_group, hlines]
  refine ⟨"\n" ++ fileText rest ++ "\n", ?_⟩
  simp [textBeforeBlock, ← String.toList_inj]

/-- The constants are padded to the length of the longest, which does not depend on the order of
the values, and the const block puts the names of the type below one another with as few blanks as
that takes. The block has an entry for each value even if its constant goes over a line; if nothing
does, then the entries are the lines that a reader finds in the block. -/
theorem constants_aligned {values : List String} (hne : values ≠ [])
    (hwidth : ∀ value ∈ values, (constant value).length ≤ maxWidth) :
    IsGreatest {n | ∃ value ∈ values, (constant value).length = n} (constantWidth values) ∧
    (∀ value ∈ values, ∃ padded,
      padRight? (constantWidth values) (constant value) = some padded ∧
      padded.length = constantWidth values ∧ (constant value).toList <+: padded.toList) ∧
    (∃ gap, IsTight values gap ∧ ∀ commandLine name acceptEmpty, ∃ text after,
      Listing.render? ⟨commandLine, ⟨.string, name, values⟩, acceptEmpty⟩ = some text ∧
      text = textBeforeBlock commandLine name ++ "const (\n"
        ++ closedLines (values.map fun value => spacedLine name (gap value) value)
        ++ ")\n" ++ after ∧
      (OneLine commandLine → OneLine name → AreLines (values.map constant) →
        constBlock? text = some (values.map fun value => spacedLine name (gap value) value))) ∧
    ∀ others, others.Perm values → constantWidth others = constantWidth values := by
  refine ⟨isGreatest_constantWidth hne, ?padded, ⟨fillGap values, isTight_fillGap hne, ?block⟩,
    fun _ => constantWidth_perm⟩
  case padded =>
    intro value hvalue
    have hpadded : padRight? (constantWidth values) (constant value) = some _ :=
      if_pos (constantWidth_le hwidth)
    refine ⟨_, hpadded, ?_, ?_⟩
    · rw [length_of_padRight? hpadded, Nat.max_eq_left (le_constantWidth hvalue)]
    · rw [String.toList_append]
      exact List.prefix_append _ _
  case block =>
    intro commandLine name acceptEmpty
    obtain ⟨after, hafter⟩ := exists_render?_eq hwidth commandLine name acceptEmpty
    refine ⟨_, after, hafter, rfl, ?_⟩
    intro hline hname hconstants
    have htext := lines_of_areLines hline hname hconstants acceptEmpty
    have hrender := render?_eq_some hwidth commandLine name acceptEmpty
    rw [Option.some.inj (hafter.symm.trans hrender), constBlock?_of_lines htext]
    simp only [tab_constantLine]

/-- A constant can be longer than its value, and it is the constant that counts. -/
theorem constants_aligned_expanding :
    IsGreatest {n | ∃ value ∈ ["ßa", "b"], (constant value).length = n} 3 ∧
      ∃ gap, IsTight ["ßa", "b"] gap := by
  have hpaddable : ∀ value ∈ ["ßa", "b"], (constant value).length ≤ maxWidth := by decide +kernel
  have hwidth : constantWidth ["ßa", "b"] = 3 := by decide +kernel
  obtain ⟨hgreatest, -, ⟨gap, htight, -⟩, -⟩ := constants_aligned (by decide) hpaddable
  rw [hwidth] at hgreatest
  exact ⟨hgreatest, gap, htight⟩

end GoEnum.Source.StringEnum

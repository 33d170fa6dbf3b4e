/-
  The command line in the first line of a generated file.

  The first line is a comment around the command line, which has no line break
  (`head?_lines_of_render?`). It is read back as the program's name and its
  arguments, in order, whatever bytes the arguments are made of.
-/
import GoEnum.Disk.Path
import GoEnum.Proofs.Shell.Words
import GoEnum.Proofs.Source.Layout

namespace GoEnum.Source

open Text

/-- Each file starts with the comment that marks it as generated, and goes on. -/
theorem sections?_eq_cons {listing : Listing} {sections : List (List String)}
    (h : listing.sections? = some sections) :
    ∃ s after, sections = marker listing.commandLine :: s :: after := by
  obtain ⟨commandLine, ⟨kind, name, values⟩, acceptEmpty⟩ := listing
  cases kind with
  | string =>
    obtain ⟨constants, -, rfl⟩ := Option.map_eq_some_iff.mp h
    exact ⟨_, _, rfl⟩
  | int backing =>
    obtain rfl := Option.some.inj h
    exact ⟨_, _, rfl⟩

/-- A line feed at the end leaves what a text starts with. -/
theorem endLine_append (s t : String) : ∃ u, endLine (s ++ t) = s ++ u := by
  unfold endLine
  split
  · exact ⟨t, rfl⟩
  · exact ⟨t ++ "\n", String.append_assoc⟩

/-- The first line of a generated file. -/
theorem head?_lines_of_render? {listing : Listing} {text : String}
    (hline : OneLine listing.commandLine) (h : listing.render? = some text) :
    (lines text).head? =
      some ("// Code generated by " ++ listing.commandLine ++ "; DO NOT EDIT.") := by
  obtain ⟨body, hbody, rfl⟩ := Option.map_eq_some_iff.mp h
  obtain ⟨sections, hsections, rfl⟩ := Option.map_eq_some_iff.mp hbody
  obtain ⟨s, after, rfl⟩ := sections?_eq_cons hsections
  have hone : OneLine ("// Code generated by " ++ listing.commandLine ++ "; DO NOT EDIT.") := by
    unfold OneLine at hline
    simp [OneLine, hline]
  have hrest : (s :: after).flatMap ("" :: ·) ≠ [] := by simp
  obtain ⟨u, hu⟩ := endLine_append ("// Code generated by " ++ listing.commandLine
    ++ "; DO NOT EDIT." ++ "\n") ("\n".intercalate ((s :: after).flatMap ("" :: ·)))
  rw [fileText, fileLines_cons, marker, List.singleton_append,
    String.intercalate_cons_of_ne_nil hrest, hu]
  exact head?_lines hone

/-- The first line of a generated file records the command line: it is read back as the program's
name and the arguments of the process, and there is no line break in it. -/
theorem recordsCommandLine {program : String} (hne : program ≠ "")
    (hplain : ∀ c ∈ program.toList, Shell.isPlain c = true) (arguments : List Path)
    {enumeration : Enumeration} {acceptEmpty : Bool} {text : String}
    (h : Listing.render? ⟨Shell.commandLine program (arguments.map Path.shown), enumeration,
      acceptEmpty⟩ = some text) :
    ∃ recorded,
      (lines text).head? = some ("// Code generated by " ++ recorded ++ "; DO NOT EDIT.") ∧
      (∀ c ∈ recorded.toList, c ≠ '\n' ∧ c ≠ '\r') ∧
      Shell.words? recorded = some (program :: arguments.map Path.shown) := by
  have hbreak : ∀ c ∈ (Shell.commandLine program (arguments.map Path.shown)).toList,
      c ≠ '\n' ∧ c ≠ '\r' := by
    intro c hc
    simpa [Shell.isLineBreak] using Shell.isLineBreak_commandLine hne hplain _ c hc
  have hline : OneLine (Shell.commandLine program (arguments.map Path.shown)) :=
    fun hmem => (hbreak _ hmem).1 rfl
  exact ⟨_, head?_lines_of_render? hline h, hbreak, Shell.words?_commandLine hne hplain _⟩

theorem recordsCommandLine_bytes : ∃ text recorded,
    Listing.render? ⟨Shell.commandLine "go-enum" ([⟨[0x27, 0x20]⟩, ⟨[0x0A, 0xFF]⟩].map Path.shown),
      ⟨.int none, "Size", ["small"]⟩, false⟩ = some text ∧
    (lines text).head? = some ("// Code generated by " ++ recorded ++ "; DO NOT EDIT.") ∧
    (∀ c ∈ recorded.toList, c ≠ '\n' ∧ c ≠ '\r') ∧
    Shell.words? recorded =
      some ("go-enum" :: [⟨[0x27, 0x20]⟩, ⟨[0x0A, 0xFF]⟩].map Path.shown) := by
  have hplain : "go-enum".toList.all Shell.isPlain = true := by decide +kernel
  obtain ⟨recorded, hrecorded⟩ := recordsCommandLine (show "go-enum" ≠ "" by decide)
    (List.all_eq_true.mp hplain) [⟨[0x27, 0x20]⟩, ⟨[0x0A, 0xFF]⟩]
    (show Listing.render? ⟨_, ⟨.int none, "Size", ["small"]⟩, false⟩ = _ from rfl)
  exact ⟨_, recorded, rfl, hrecorded⟩

end GoEnum.Source

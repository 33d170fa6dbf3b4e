/-
  The lines of a file that was laid out in sections.

  If no line of a section holds a line feed, then the lines of the file's text are
  the lines of its sections, with an empty line between two sections and one at the
  end (`lines_endLine_fileText`). What a section encloses can then be found in the
  text by its first and last line (`between?_fileLines`), provided that the first
  one does not stand in an earlier section.
-/
import GoEnum.Proofs.Text.Lines
import GoEnum.Source.Rendering

namespace GoEnum.Source

open Text

/-! ### Lines of sections -/

theorem not_mem_indent {l : String} (h : l.toList.head? ≠ some '\t') (body : List String) :
    l ∉ indent body := by
  intro hmem
  obtain ⟨b, -, rfl⟩ := List.mem_map.mp hmem
  apply h
  rw [String.toList_append]
  rfl

theorem append_right_injective (s : String) : Function.Injective (s ++ ·) :=
  fun _ _ h => String.append_right_inj s |>.mp h

theorem mem_indent {l : String} {ls : List String} : "\t" ++ l ∈ indent ls ↔ l ∈ ls :=
  List.mem_map_of_injective (append_right_injective "\t")

/-- Lines are found alike before and after they are indented. -/
theorem between?_indent (opening closing : String) (ls : List String) :
    between? ("\t" ++ opening) ("\t" ++ closing) (indent ls) =
      (between? opening closing ls).map indent := by
  have hne : ∀ s : String, ((· != "\t" ++ s) ∘ fun l : String => "\t" ++ l) = (· != s) := by
    intro s
    funext l
    simp [Function.comp, bne, (append_right_injective "\t").eq_iff]
  rw [between?, between?, indent, List.dropWhile_map, hne opening]
  cases ls.dropWhile (· != opening) with
  | nil => rfl
  | cons l rest =>
    have hmem : "\t" ++ closing ∈ rest.map ("\t" ++ ·) ↔ closing ∈ rest := mem_indent
    simp only [List.map_cons, hmem]
    split
    · rw [List.takeWhile_map, hne closing]
      rfl
    · rfl

/-- Whether all lines of a section hold no line feeds. -/
def AreLines (ls : List String) : Prop :=
  ∀ l ∈ ls, OneLine l

@[simp] theorem areLines_nil : AreLines [] := by
  simp [AreLines]

@[simp] theorem areLines_cons (l : String) (ls : List String) :
    AreLines (l :: ls) ↔ OneLine l ∧ AreLines ls := by
  simp [AreLines]

@[simp] theorem areLines_append (ls ks : List String) :
    AreLines (ls ++ ks) ↔ AreLines ls ∧ AreLines ks := by
  simp only [AreLines, List.forall_mem_append]

@[simp] theorem areLines_indent (ls : List String) : AreLines (indent ls) ↔ AreLines ls := by
  simp +decide [AreLines, indent]

@[simp] theorem areLines_enclosed (opening closing : String) (body : List String) :
    AreLines (enclosed opening body closing) ↔
      OneLine opening ∧ AreLines body ∧ OneLine closing := by
  simp [enclosed]

@[simp] theorem areLines_block (header : String) (body : List String) :
    AreLines (block header body) ↔ OneLine header ∧ AreLines body := by
  simp +decide [block]

@[simp] theorem areLines_composite (type : String) (elements : List String) :
    AreLines (composite type elements) ↔ OneLine type ∧ AreLines elements := by
  have helements : AreLines (elements.map (· ++ ",")) ↔ AreLines elements := by
    simp +decide [AreLines]
  simp +decide [composite, helements]

@[simp] theorem areLines_group (keyword : String) (body : List String) :
    AreLines (group keyword body) ↔ OneLine keyword ∧ AreLines body := by
  simp +decide [group]

theorem switchOn_eq (subject : String) (cases : List (String × List String)) :
    switchOn subject cases = ("switch " ++ subject ++ " \x7b") ::
      (cases.flatMap (fun c => ("case " ++ c.1 ++ ":") :: indent c.2) ++ ["\x7d"]) :=
  rfl

theorem areLines_switchOn {subject : String} {cases : List (String × List String)}
    (hsubject : OneLine subject) (hcases : ∀ c ∈ cases, OneLine c.1 ∧ AreLines c.2) :
    AreLines (switchOn subject cases) := by
  have hcases : AreLines (cases.flatMap fun c => ("case " ++ c.1 ++ ":") :: indent c.2) := by
    intro l hl
    obtain ⟨c, hc, hl⟩ := List.mem_flatMap.mp hl
    obtain ⟨hlabels, hbody⟩ := hcases c hc
    rcases List.mem_cons.mp hl with rfl | hl
    · simp +decide [hlabels]
    · exact (areLines_indent c.2).mpr hbody l hl
  rw [switchOn_eq]
  simp +decide [hsubject, hcases]

/-! ### Lines of files -/

theorem fileLines_cons (s : List String) (after : List (List String)) :
    fileLines (s :: after) = s ++ after.flatMap ("" :: ·) := by
  induction after generalizing s with
  | nil => simp [fileLines]
  | cons t after ih =>
    rw [fileLines, List.intercalate_cons_cons, ← fileLines, ih t]
    simp

theorem fileLines_ne_nil {s : List String} (h : s ≠ []) (after : List (List String)) :
    fileLines (s :: after) ≠ [] := by
  rw [fileLines_cons]
  exact List.append_ne_nil_of_left_ne_nil h _

/-- What stands before, in and after one of the sections of a file. -/
theorem fileLines_append_cons (before : List (List String)) (s : List String)
    (after : List (List String)) :
    fileLines (before ++ s :: after) =
      before.flatMap (· ++ [""]) ++ s ++ after.flatMap ("" :: ·) := by
  induction before with
  | nil => simp [fileLines_cons]
  | cons t before ih =>
    have hne : before ++ s :: after ≠ [] := by simp
    rw [List.cons_append, fileLines, List.intercalate_cons_of_ne_nil hne, ← fileLines, ih]
    simp

theorem mem_fileLines {l : String} {sections : List (List String)} (h : l ∈ fileLines sections) :
    l = "" ∨ ∃ s ∈ sections, l ∈ s := by
  cases sections with
  | nil => simp [fileLines] at h
  | cons s after =>
    rw [fileLines_cons, List.mem_append, List.mem_flatMap] at h
    rcases h with h | ⟨t, ht, h⟩
    · exact Or.inr ⟨s, List.mem_cons_self, h⟩
    · rcases List.mem_cons.mp h with h | h
      · exact Or.inl h
      · exact Or.inr ⟨t, List.mem_cons_of_mem _ ht, h⟩

/-- What a section has between two lines is found between them in the file, if no earlier line of
the file is like the first of them. -/
theorem between?_fileLines {opening closing : String} {before : List (List String)}
    {comment body : List String} (hne : opening ≠ "") (hbefore : ∀ s ∈ before, opening ∉ s)
    (hcomment : opening ∉ comment) (hbody : closing ∉ body) (rest : List String)
    (after : List (List String)) (last : List String) :
    between? opening closing
      (fileLines (before ++ (comment ++ opening :: (body ++ closing :: rest)) :: after) ++ last)
      = some body := by
  have hopen : opening ∉ before.flatMap (· ++ [""]) ++ comment := by
    intro hmem
    rcases List.mem_append.mp hmem with hmem | hmem
    · obtain ⟨s, hs, hmem⟩ := List.mem_flatMap.mp hmem
      rcases List.mem_append.mp hmem with hmem | hmem
      · exact hbefore s hs hmem
      · exact hne (List.mem_singleton.mp hmem)
    · exact hcomment hmem
  have hcut := between?_eq_some hopen hbody (rest ++ after.flatMap ("" :: ·) ++ last)
  rw [fileLines_append_cons]
  simpa using hcut

/-- What a section encloses in brackets is found in the file. -/
theorem between?_fileLines_enclosed {opening closing : String} {before : List (List String)}
    {comment : List String} (hne : opening ≠ "") (hbefore : ∀ s ∈ before, opening ∉ s)
    (hcomment : opening ∉ comment) (hclosing : closing.toList.head? ≠ some '\t')
    (body : List String) (after : List (List String)) (last : List String) :
    between? opening closing
      (fileLines (before ++ (comment ++ enclosed opening body closing) :: after) ++ last)
      = some (indent body) :=
  between?_fileLines hne hbefore hcomment (not_mem_indent hclosing body) [] after last

@[simp] theorem getLast?_block (header : String) (body : List String) :
    (block header body).getLast? = some "\x7d" := by
  rw [block, enclosed, ← List.cons_append, List.getLast?_concat]

/-! ### Lines with their line feeds -/

/-- The text of some lines, each with a line feed at its end. -/
def closedLines : List String → String
  | [] => ""
  | l :: ls => l ++ "\n" ++ closedLines ls

theorem closedLines_append (ls ks : List String) :
    closedLines (ls ++ ks) = closedLines ls ++ closedLines ks := by
  induction ls with
  | nil => simp [closedLines]
  | cons l ls ih =>
    rw [List.cons_append, closedLines, closedLines, ih, ← String.append_assoc]

theorem intercalate_append_lineFeed {ls : List String} (h : ls ≠ []) :
    "\n".intercalate ls ++ "\n" = closedLines ls := by
  induction ls with
  | nil => exact absurd rfl h
  | cons l ls ih =>
    by_cases hls : ls = []
    · simp [hls, closedLines]
    · rw [String.intercalate_cons_of_ne_nil hls, closedLines, String.append_assoc, ih hls]

theorem endLine_append_of_ne (s : String) {t : String} (h : t ≠ "") :
    endLine (s ++ t) = s ++ endLine t := by
  have hlast : (s ++ t).toList.getLast? = t.toList.getLast? := by
    have hne : t.toList ≠ [] := by simpa using h
    rw [String.toList_append, List.getLast?_append_of_ne_nil _ hne]
  unfold endLine
  rw [hlast]
  split
  · rfl
  · exact String.append_assoc

/-- The line feed at the end of a text is that of its last line. -/
theorem endLine_intercalate {ls : List String} {last : String} (h : ls.getLast? = some last)
    (hne : last ≠ "") (hlast : endLine last = last ++ "\n") :
    endLine ("\n".intercalate ls) = closedLines ls := by
  obtain ⟨front, rfl⟩ := List.getLast?_eq_some_iff.mp h
  rw [← intercalate_append_lineFeed (by simp)]
  by_cases hfront : front = []
  · simpa [hfront] using hlast
  · rw [String.intercalate_append_of_ne_nil hfront (by simp), String.intercalate_singleton,
      endLine_append_of_ne _ hne, hlast, ← String.append_assoc]

theorem fileLines_append {before after : List (List String)} (hbefore : before ≠ [])
    (hafter : after ≠ []) :
    fileLines (before ++ after) = fileLines before ++ "" :: fileLines after := by
  obtain ⟨s, before, rfl⟩ := List.exists_cons_of_ne_nil hbefore
  obtain ⟨t, after, rfl⟩ := List.exists_cons_of_ne_nil hafter
  rw [List.cons_append, fileLines_cons, fileLines_cons, fileLines_cons, List.flatMap_append,
    List.flatMap_cons]
  simp only [List.append_assoc, List.cons_append]

/-- Two parts of a file are an empty line apart. -/
theorem fileText_append {before after : List (List String)} (hbefore : fileLines before ≠ [])
    (hafter : fileLines after ≠ []) :
    fileText (before ++ after) = fileText before ++ "\n\n" ++ fileText after := by
  have hne : ∀ {sections : List (List String)}, fileLines sections ≠ [] → sections ≠ [] := by
    rintro sections h rfl
    exact h rfl
  rw [fileText, fileLines_append (hne hbefore) (hne hafter),
    String.intercalate_append_of_ne_nil hbefore (by simp), String.intercalate_cons_of_ne_nil hafter,
    ← fileText, ← fileText]
  simp [String.ext_iff]

/-- A section is an empty line apart from what stands before and after it. -/
theorem fileText_append_cons {before : List (List String)} {s : List String}
    {after : List (List String)} (hbefore : fileLines before ≠ []) (hs : s ≠ [])
    (hafter : fileLines after ≠ []) :
    fileText (before ++ s :: after) =
      fileText before ++ "\n\n" ++ "\n".intercalate s ++ "\n\n" ++ fileText after := by
  have hone : fileLines [s] = s := by rw [fileLines_cons, List.flatMap_nil, List.append_nil]
  have htext : fileText [s] = "\n".intercalate s := by rw [fileText, hone]
  have hfirst : fileText (s :: after) = fileText [s] ++ "\n\n" ++ fileText after :=
    fileText_append (hone.symm ▸ hs) hafter
  rw [fileText_append hbefore (fileLines_ne_nil hs after), hfirst, htext]
  simp only [String.append_assoc]

theorem getLast?_fileLines {sections : List (List String)} {s : List String} {last : String}
    (hs : sections.getLast? = some s) (hlast : s.getLast? = some last) :
    (fileLines sections).getLast? = some last := by
  obtain ⟨before, rfl⟩ := List.getLast?_eq_some_iff.mp hs
  rw [fileLines_append_cons, List.flatMap_nil, List.append_nil, List.getLast?_append, hlast,
    Option.some_or]

/-- A file ends with its last line, and a line feed is put there. -/
theorem endLine_fileText {sections : List (List String)} {s : List String} {last : String}
    (hs : sections.getLast? = some s) (hlast : s.getLast? = some last) (hne : last ≠ "")
    (hend : endLine last = last ++ "\n") :
    endLine (fileText sections) = fileText sections ++ "\n" := by
  have hlines := getLast?_fileLines hs hlast
  rw [fileText, endLine_intercalate hlines hne hend, intercalate_append_lineFeed]
  rintro hnil
  simp [hnil] at hlines

theorem lines_closedLines {ls : List String} (h : AreLines ls) :
    lines (closedLines ls) = ls ++ [""] := by
  induction ls with
  | nil => decide
  | cons l ls ih =>
    obtain ⟨hl, hls⟩ := (areLines_cons l ls).mp h
    rw [closedLines, lines_line_append hl, ih hls, List.cons_append]

/-- The lines of a file are those of its sections, and an empty one at its end. -/
theorem lines_endLine_fileText {sections : List (List String)} {s : List String} {last : String}
    (h : ∀ t ∈ sections, AreLines t) (hs : sections.getLast? = some s)
    (hlast : s.getLast? = some last) (hne : last ≠ "") :
    lines (endLine (fileText sections)) = fileLines sections ++ [""] := by
  have hlines : AreLines (fileLines sections) := by
    intro l hl
    rcases mem_fileLines hl with rfl | ⟨t, ht, hl⟩
    · decide
    · exact h t ht l hl
  have hlastLine := getLast?_fileLines hs hlast
  -- The last line ends with no line feed, as it has none.
  have hend : endLine last = last ++ "\n" :=
    if_neg fun hfeed => hlines last (List.mem_of_getLast? hlastLine) (List.mem_of_getLast? hfeed)
  rw [fileText, endLine_intercalate hlastLine hne hend, lines_closedLines hlines]

end GoEnum.Source

/-
  Reading the words of a shell command line.

  The reader goes character by character in a `Mode`, which tells whether it is in a
  word and in which quotes. It is stricter than a shell: what a shell would take as
  an operator or expand is refused. A quoted word takes the reader from one blank to
  the next and leaves the word behind (`reads_quoteChars`), so a command line is read
  as the words that it was made of, whatever their characters are
  (`words?_commandLine`).
-/
import GoEnum.Proofs.Text.Ascii
import GoEnum.Proofs.Text.Lines
import GoEnum.Shell.Word
import Mathlib.Tactic.SplitIfs

namespace GoEnum.Shell

/-! ### The reader -/

/-- Where the reader is. -/
inductive Mode where
  /-- Between two words. -/
  | between
  /-- In a word, outside quotes. -/
  | plain
  /-- After a backslash outside quotes. -/
  | escape
  /-- After a dollar sign outside quotes. -/
  | dollar
  /-- Between single quotes. -/
  | single
  /-- Between a dollar sign with a single quote and a single quote. -/
  | dollarQuotes
  /-- After a backslash there. -/
  | dollarEscape
deriving Repr, DecidableEq

/-- The characters that mean something to a shell outside quotes. -/
def metaCharacters : List Char := [
  '|', '&', ';', '<', '>', '(', ')', '$', '\x60', '"', '*', '?', '[', ']', '#', '~', '{', '}', '!',
  '\n', '\r']

/-- The mode after a character outside quotes, and what the character adds to the word. -/
def stepPlain (c : Char) : Option (Mode × List Char) :=
  if Text.separatesWords c then some (.between, [])
  else if c = '\'' then some (.single, [])
  else if c = '$' then some (.dollar, [])
  else if c = '\\' then some (.escape, [])
  else if c ∈ metaCharacters then none
  else some (.plain, [c])

/-- The character that a backslash and a character denote after a dollar sign and a quote. -/
def escaped? (c : Char) : Option Char :=
  if c = '\\' ∨ c = '\'' then some c
  else if c = 'n' then some '\n'
  else if c = 'r' then some '\r'
  else none

/-- The mode after a character, and what the character adds to the word. -/
def step : Mode → Char → Option (Mode × List Char)
  | .between, c => stepPlain c
  | .plain, c => stepPlain c
  | .escape, c => some (.plain, [c])
  | .dollar, c => if c = '\'' then some (.dollarQuotes, []) else none
  | .single, c => if c = '\'' then some (.plain, []) else some (.single, [c])
  | .dollarQuotes, c =>
    if c = '\'' then some (.plain, [])
    else if c = '\\' then some (.dollarEscape, [])
    else some (.dollarQuotes, [c])
  | .dollarEscape, c => (escaped? c).map fun d => (.dollarQuotes, [d])

/-- Reads on, with what has come of the present word. -/
def readWords : Mode → List Char → List Char → Option (List (List Char))
  | mode, word, [] =>
    match mode with
    | .between => some []
    | .plain => some [word]
    | _ => none
  | mode, word, c :: cs => do
    let (next, more) ← step mode c
    if next = .between then
      let words ← readWords .between [] cs
      return if mode = .between then words else word :: words
    else readWords next (word ++ more) cs

/-- The words of a command line. -/
def words? (s : String) : Option (List String) :=
  (readWords .between [] s.toList).map (·.map String.ofList)

/-! ### Runs of the reader -/

/-- Whether some characters take the reader from one mode to another within one word, and what they
add to the word. -/
def Reads (first : Mode) (cs : List Char) (last : Mode) (added : List Char) : Prop :=
  ∀ word rest, readWords first word (cs ++ rest) = readWords last (word ++ added) rest

theorem reads_nil (mode : Mode) : Reads mode [] mode [] := by
  intro word rest
  simp

theorem Reads.append {first next last : Mode} {cs ds added more : List Char}
    (h : Reads first cs next added) (h' : Reads next ds last more) :
    Reads first (cs ++ ds) last (added ++ more) := by
  intro word rest
  rw [List.append_assoc, h, h', List.append_assoc]

theorem reads_singleton {first next : Mode} {c : Char} {added : List Char}
    (h : step first c = some (next, added)) (hnext : next ≠ .between) :
    Reads first [c] next added := by
  intro word rest
  rw [List.singleton_append, readWords, h]
  simp [hnext]

/-- What holds of each character holds of a text, if the mode stays. -/
theorem reads_flatMap {mode : Mode} {write : Char → List Char} {cs : List Char}
    (h : ∀ c ∈ cs, Reads mode (write c) mode [c]) : Reads mode (cs.flatMap write) mode cs := by
  induction cs with
  | nil => exact reads_nil mode
  | cons c cs ih =>
    obtain ⟨hc, hcs⟩ := List.forall_mem_cons.mp h
    exact hc.append (ih hcs)

/-! ### Written words are read back -/

/-- The characters that the reader stops at outside quotes are not plain. -/
theorem isPlain_eq_false {c : Char}
    (h : c ∈ [' ', '\t', '\'', '$', '\\'] ∨ c ∈ metaCharacters) : isPlain c = false := by
  have hall : ([' ', '\t', '\'', '$', '\\'] ++ metaCharacters).all (fun d =>
      d.toNat < 0x80 && !(d.isAlphanum || plainPunctuation.contains d)) = true := by
    decide
  have hc := List.all_eq_true.mp hall c (List.mem_append.mpr h)
  simp only [Bool.and_eq_true, decide_eq_true_eq, Bool.not_eq_true'] at hc
  obtain ⟨hascii, hnone⟩ := hc
  rw [isPlain, Text.isAlphanumeric_ascii hascii, hnone]

theorem stepPlain_of_isPlain {c : Char} (h : isPlain c = true) :
    stepPlain c = some (.plain, [c]) := by
  have hne : ∀ d ∈ [' ', '\t', '\'', '$', '\\'], c ≠ d := by
    rintro d hd rfl
    exact absurd h (by simp [isPlain_eq_false (Or.inl hd)])
  have hmeta : c ∉ metaCharacters := by
    intro hc
    exact absurd h (by simp [isPlain_eq_false (Or.inr hc)])
  have hspace : Text.separatesWords c = false := by
    simp [Text.separatesWords, hne ' ', hne '\t']
  simp [stepPlain, hspace, hmeta, hne '\'', hne '$', hne '\\']

theorem reads_plain {cs : List Char} (h : ∀ c ∈ cs, isPlain c = true) :
    Reads .plain cs .plain cs := by
  have hall : Reads .plain (cs.flatMap fun c => [c]) .plain cs := by
    apply reads_flatMap
    intro c hc
    exact reads_singleton (stepPlain_of_isPlain (h c hc)) (by decide)
  rwa [List.flatMap_singleton'] at hall

/-- A single quote goes through three modes, all else stays between the quotes. -/
theorem reads_escapeInSingleQuotes (c : Char) :
    Reads .single (escapeInSingleQuotes c) .single [c] := by
  unfold escapeInSingleQuotes
  split_ifs with hquote
  · subst hquote
    have hclose : Reads .single ['\''] .plain [] := reads_singleton rfl (by decide)
    have hslash : Reads .plain ['\\'] .escape [] := reads_singleton rfl (by decide)
    have hescaped : Reads .escape ['\''] .plain ['\''] := reads_singleton rfl (by decide)
    have hopen : Reads .plain ['\''] .single [] := reads_singleton rfl (by decide)
    exact ((hclose.append hslash).append hescaped).append hopen
  · exact reads_singleton (by rw [step, if_neg hquote]) (by decide)

theorem reads_escapeInDollarQuotes (c : Char) :
    Reads .dollarQuotes (escapeInDollarQuotes c) .dollarQuotes [c] := by
  have hescape : ∀ {d : Char}, escaped? d = some c →
      Reads .dollarQuotes ['\\', d] .dollarQuotes [c] := by
    intro d hd
    have hslash : Reads .dollarQuotes ['\\'] .dollarEscape [] := reads_singleton rfl (by decide)
    have hstep : step .dollarEscape d = some (.dollarQuotes, [c]) := by rw [step, hd]; rfl
    exact hslash.append (reads_singleton hstep (by decide))
  unfold escapeInDollarQuotes
  split_ifs with hslash hquote hfeed hreturn
  · subst hslash
    exact hescape rfl
  · subst hquote
    exact hescape rfl
  · subst hfeed
    exact hescape rfl
  · subst hreturn
    exact hescape rfl
  · exact reads_singleton (by rw [step, if_neg hquote, if_neg hslash]) (by decide)

/-- A quoted word takes the reader from between two words to the end of the word. -/
theorem reads_quoteChars (cs : List Char) : Reads .between (quoteChars cs) .plain cs := by
  unfold quoteChars
  split_ifs with hplain hbreak
  · obtain ⟨hne, hall⟩ : cs ≠ [] ∧ ∀ c ∈ cs, isPlain c = true := by simpa using hplain
    obtain ⟨c, cs, rfl⟩ := List.exists_cons_of_ne_nil hne
    obtain ⟨hc, hcs⟩ := List.forall_mem_cons.mp hall
    have hstep : step .between c = some (.plain, [c]) := stepPlain_of_isPlain hc
    exact (reads_singleton hstep (by decide)).append (reads_plain hcs)
  · have hdollar : Reads .between ['$'] .dollar [] := reads_singleton rfl (by decide)
    have hopen : Reads .dollar ['\''] .dollarQuotes [] := reads_singleton rfl (by decide)
    have hinside : Reads .dollarQuotes (cs.flatMap escapeInDollarQuotes) .dollarQuotes cs :=
      reads_flatMap fun c _ => reads_escapeInDollarQuotes c
    have hclose : Reads .dollarQuotes ['\''] .plain [] := reads_singleton rfl (by decide)
    simpa using (hdollar.append hopen).append (hinside.append hclose)
  · have hopen : Reads .between ['\''] .single [] := reads_singleton rfl (by decide)
    have hinside : Reads .single (cs.flatMap escapeInSingleQuotes) .single cs :=
      reads_flatMap fun c _ => reads_escapeInSingleQuotes c
    have hclose : Reads .single ['\''] .plain [] := reads_singleton rfl (by decide)
    simpa using hopen.append (hinside.append hclose)

theorem readWords_intercalate {words : List (List Char)} (hne : words ≠ []) :
    readWords .between [] ([' '].intercalate (words.map quoteChars)) = some words := by
  induction words with
  | nil => exact absurd rfl hne
  | cons word words ih =>
    have hread := reads_quoteChars word []
    cases words with
    | nil =>
      have hlast := hread []
      rw [List.append_nil] at hlast
      simpa [readWords] using hlast
    | cons next words =>
      have hrest := ih (by simp)
      rw [List.map_cons] at hrest
      -- The blank ends the word, and the reader is between two words again.
      have hstep : step .plain ' ' = some (.between, []) := rfl
      rw [List.map_cons, List.map_cons, List.intercalate_cons_cons, List.append_assoc, hread]
      rw [List.singleton_append, readWords, hstep]
      simp [hrest]

/-- A program's name of plain characters stands as it would be quoted. -/
theorem quoteWord_of_isPlain {s : String} (hne : s ≠ "") (h : ∀ c ∈ s.toList, isPlain c = true) :
    quoteWord s = s := by
  have hplain : (!s.toList.isEmpty && s.toList.all isPlain) = true := by
    simpa [hne] using h
  rw [quoteWord, quoteChars, if_pos hplain, String.ofList_toList]

theorem commandLine_eq_intercalate {program : String} (hne : program ≠ "")
    (hplain : ∀ c ∈ program.toList, isPlain c = true) (arguments : List String) :
    commandLine program arguments = " ".intercalate ((program :: arguments).map quoteWord) := by
  rw [commandLine, List.map_cons, quoteWord_of_isPlain hne hplain]

/-- A command line is read as the program's name and the arguments. -/
theorem words?_commandLine {program : String} (hne : program ≠ "")
    (hplain : ∀ c ∈ program.toList, isPlain c = true) (arguments : List String) :
    words? (commandLine program arguments) = some (program :: arguments) := by
  have hchars : ((program :: arguments).map quoteWord).map String.toList =
      ((program :: arguments).map String.toList).map quoteChars := by
    simp [quoteWord, Function.comp_def]
  rw [words?, commandLine_eq_intercalate hne hplain, String.toList_intercalate, hchars,
    show " ".toList = [' '] from rfl, readWords_intercalate (by simp)]
  simp [Function.comp_def]

/-! ### Command lines have one line -/

theorem isLineBreak_escapeInDollarQuotes {c d : Char} (h : d ∈ escapeInDollarQuotes c) :
    isLineBreak d = false := by
  have hpair : ∀ {e : Char}, isLineBreak e = false → d ∈ ['\\', e] → isLineBreak d = false := by
    intro e he hmem
    simp only [List.mem_cons, List.not_mem_nil, or_false] at hmem
    rcases hmem with rfl | rfl
    · rfl
    · exact he
  unfold escapeInDollarQuotes at h
  split_ifs at h with hslash hquote hfeed hreturn
  · exact hpair rfl h
  · exact hpair rfl h
  · exact hpair rfl h
  · exact hpair rfl h
  · rw [List.mem_singleton.mp h]
    simp [isLineBreak, hfeed, hreturn]

theorem isLineBreak_escapeInSingleQuotes {c d : Char} (hc : isLineBreak c = false)
    (h : d ∈ escapeInSingleQuotes c) : isLineBreak d = false := by
  unfold escapeInSingleQuotes at h
  split_ifs at h with hquote
  · simp only [List.mem_cons, List.not_mem_nil, or_false] at h
    rcases h with rfl | rfl | rfl | rfl <;> rfl
  · rwa [List.mem_singleton.mp h]

/-- No quoted word has a line break. -/
theorem isLineBreak_quoteChars {cs : List Char} : ∀ c ∈ quoteChars cs, isLineBreak c = false := by
  intro c hc
  unfold quoteChars at hc
  split_ifs at hc with hplain hbreak
  · obtain ⟨-, hall⟩ : cs ≠ [] ∧ ∀ d ∈ cs, isPlain d = true := by simpa using hplain
    cases hbreak : isLineBreak c with
    | false => rfl
    | true =>
      have hmeta : c ∈ metaCharacters := by
        have hends : c = '\n' ∨ c = '\r' := by simpa [isLineBreak] using hbreak
        rcases hends with rfl | rfl <;> simp [metaCharacters]
      exact absurd (hall c hc) (by simp [isPlain_eq_false (Or.inr hmeta)])
  · simp only [List.mem_cons, List.mem_append, List.mem_flatMap, List.not_mem_nil, or_false] at hc
    rcases hc with rfl | rfl | ⟨d, -, hc⟩ | rfl
    · rfl
    · rfl
    · exact isLineBreak_escapeInDollarQuotes hc
    · rfl
  · simp only [List.mem_cons, List.mem_append, List.mem_flatMap, List.not_mem_nil, or_false] at hc
    have hcs : ∀ d ∈ cs, isLineBreak d = false := by simpa using hbreak
    rcases hc with rfl | ⟨d, hd, hc⟩ | rfl
    · rfl
    · exact isLineBreak_escapeInSingleQuotes (hcs d hd) hc
    · rfl

theorem isLineBreak_intercalate {words : List String}
    (h : ∀ word ∈ words, ∀ c ∈ word.toList, isLineBreak c = false) :
    ∀ c ∈ (" ".intercalate words).toList, isLineBreak c = false := by
  induction words with
  | nil => simp
  | cons word words ih =>
    obtain ⟨hword, hwords⟩ := List.forall_mem_cons.mp h
    by_cases hnil : words = []
    · simpa [hnil] using hword
    · rw [String.intercalate_cons_of_ne_nil hnil, String.toList_append, String.toList_append]
      have hspace : ∀ c ∈ " ".toList, isLineBreak c = false := by simp [isLineBreak]
      simp only [List.forall_mem_append]
      exact ⟨⟨hword, hspace⟩, ih hwords⟩

/-- A command line has no line break. -/
theorem isLineBreak_commandLine {program : String} (hne : program ≠ "")
    (hplain : ∀ c ∈ program.toList, isPlain c = true) (arguments : List String) :
    ∀ c ∈ (commandLine program arguments).toList, isLineBreak c = false := by
  rw [commandLine_eq_intercalate hne hplain]
  apply isLineBreak_intercalate
  intro word hword
  obtain ⟨s, -, rfl⟩ := List.mem_map.mp hword
  rw [quoteWord, String.toList_ofList]
  exact isLineBreak_quoteChars

end GoEnum.Shell

/-
  Reading the labels of a case.

  Labels are literals and names, separated by commas, with a colon after the last
  one. `readLabels?` reads them back just as they were written, if no name contains
  what separates labels.
-/
import GoEnum.Proofs.Lexeme.Identifier
import GoEnum.Proofs.Lexeme.Literal

namespace GoEnum.Lexeme

/-- A label of a case. -/
inductive Label where
  /-- A literal, by the text that it denotes. -/
  | text (s : String)
  /-- A name. -/
  | name (s : String)
deriving Repr, DecidableEq

/-- Whether a character may end a name among labels. -/
def endsName (c : Char) : Bool :=
  c == ',' || c == ':'

/-- Reads a label: the label, and what comes after it. -/
def readLabel? (cs : List Char) : Option (Label × List Char) :=
  if cs.head? = some '"' then
    (readLiteral cs).map fun (content, rest) => (.text (String.ofList content), rest)
  else
    some (.name (String.ofList (cs.takeWhile (!endsName ·))), cs.dropWhile (!endsName ·))

/-- Reads at most `count` labels, up to the colon at the end. -/
def readLabelsUpTo : Nat → List Char → Option (List Label)
  | 0, _ => none
  | count + 1, cs => do
    let (label, rest) ← readLabel? cs
    match rest with
    | [':'] => return [label]
    | ',' :: ' ' :: more => return label :: (← readLabelsUpTo count more)
    | _ => none

/-- Reads the labels of a case, up to the colon after them. A label takes at least one
character. -/
def readLabels? (s : String) : Option (List Label) :=
  readLabelsUpTo s.length s.toList

/-- A label as it is written. -/
def Label.written : Label → String
  | .text s => literal s
  | .name s => s

/-- Whether a label is read as it was written: a name does not look like a literal, and nothing in
it ends it. -/
def Label.IsReadable : Label → Prop
  | .text _ => True
  | .name s => s.toList.head? ≠ some '"' ∧ ∀ c ∈ s.toList, endsName c = false

theorem isReadable_name_of_isIdentifier {s : String} (h : isIdentifier s = true) :
    (Label.name s).IsReadable := by
  have hquote : isWordChar '"' = false := isWordChar_ascii (by decide)
  have hcomma : isWordChar ',' = false := isWordChar_ascii (by decide)
  have hcolon : isWordChar ':' = false := isWordChar_ascii (by decide)
  constructor
  · intro hhead
    exact not_mem_of_isIdentifier h hquote (List.mem_of_head? hhead)
  · intro c hc
    have hne : c ≠ ',' ∧ c ≠ ':' := by
      constructor
      · rintro rfl
        exact not_mem_of_isIdentifier h hcomma hc
      · rintro rfl
        exact not_mem_of_isIdentifier h hcolon hc
    simp [endsName, hne]

/-- A written label is read up to where something follows that ends a name. -/
theorem readLabel?_written {label : Label} (h : label.IsReadable) {c : Char}
    (hc : endsName c = true) (cs : List Char) :
    readLabel? (label.written.toList ++ c :: cs) = some (label, c :: cs) := by
  cases label with
  | text s =>
    have hread := readLiteral_literalChars s.toList (c :: cs)
    have hhead : (literalChars s.toList ++ c :: cs).head? = some '"' := rfl
    rw [Label.written, literal, String.toList_ofList, readLabel?, if_pos hhead, hread]
    simp
  | name s =>
    -- A name does not look like a literal, even when it is empty.
    obtain ⟨hquote, hends⟩ := h
    have hhead : (s.toList ++ c :: cs).head? ≠ some '"' := by
      cases hs : s.toList with
      | nil =>
        rintro hc'
        obtain rfl : c = '"' := by simpa using hc'
        exact absurd hc (by decide)
      | cons d ds =>
        rw [hs] at hquote
        simpa using hquote
    have hinside : ∀ d ∈ s.toList, (!endsName d) = true := by
      intro d hd
      rw [hends d hd]
      rfl
    rw [Label.written, readLabel?, if_neg hhead, List.takeWhile_append_of_pos hinside,
      List.dropWhile_append_of_pos hinside, List.takeWhile_cons_of_neg (by simp [hc]),
      List.dropWhile_cons_of_neg (by simp [hc])]
    simp

theorem readLabelsUpTo_written {labels : List Label} (h : ∀ label ∈ labels, label.IsReadable)
    (hne : labels ≠ []) : ∀ {count : Nat}, labels.length ≤ count →
      readLabelsUpTo count ((", ".intercalate (labels.map Label.written)).toList ++ [':']) =
        some labels := by
  induction labels with
  | nil => exact absurd rfl hne
  | cons label labels ih =>
    intro count hcount
    obtain ⟨hlabel, hlabels⟩ := List.forall_mem_cons.mp h
    -- Each label takes one of the count, so the count is not used up before the labels are.
    cases count with
    | zero => exact absurd hcount (by simp)
    | succ count =>
      by_cases hnil : labels = []
      · subst hnil
        rw [List.map_singleton, String.intercalate_singleton, readLabelsUpTo,
          readLabel?_written hlabel (by decide)]
        rfl
      · have hrest := ih hlabels hnil (Nat.le_of_succ_le_succ hcount)
        have hmap : labels.map Label.written ≠ [] := by simpa using hnil
        rw [List.map_cons, String.intercalate_cons_of_ne_nil hmap, String.append_assoc,
          String.toList_append, String.toList_append, List.append_assoc, List.append_assoc]
        rw [show ", ".toList = [',', ' '] from rfl, List.cons_append, readLabelsUpTo,
          readLabel?_written hlabel (by decide)]
        simp only [List.cons_append, List.nil_append, Option.bind_eq_bind, Option.bind_some]
        rw [hrest]
        rfl

theorem length_le_length_intercalate (ls : List String) :
    ls.length ≤ (", ".intercalate ls).length + 1 := by
  induction ls with
  | nil => exact Nat.zero_le _
  | cons l ls ih =>
    by_cases hnil : ls = []
    · simp [hnil]
    · rw [String.intercalate_cons_of_ne_nil hnil, String.length_append, String.length_append,
        List.length_cons, show ", ".length = 2 from rfl]
      omega

/-- Labels that were written, with a comma and a space between two of them, are read back. -/
theorem readLabels?_written {labels : List Label} (h : ∀ label ∈ labels, label.IsReadable)
    (hne : labels ≠ []) :
    readLabels? (", ".intercalate (labels.map Label.written) ++ ":") = some labels := by
  have hle := length_le_length_intercalate (labels.map Label.written)
  rw [List.length_map] at hle
  rw [readLabels?, String.toList_append, show ":".toList = [':'] from rfl]
  apply readLabelsUpTo_written h hne
  rw [String.length_append, show ":".length = 1 from rfl]
  exact hle

end GoEnum.Lexeme

/-
  Reading interpreted string literals.

  `readLiteral` is the reader of the Go language, as far as the escapes go that
  `literal` writes: a quote, characters that stand for themselves or are escaped,
  and a quote; no line break may come before the closing quote. It gives what the
  literal denotes and what comes after it. Whatever follows, a literal that was
  written for a text is read as that text, and nothing of what follows is read
  (`literal_undone`).
-/
import GoEnum.Lexeme.Literal
import Mathlib.Tactic.SplitIfs
import GoEnum.Proofs.Text.Lines

namespace GoEnum.Lexeme

/-- The character that a backslash and a character denote. -/
def escaped? (c : Char) : Option Char :=
  if c = '"' ∨ c = '\\' then some c
  else if c = 'n' then some '\n'
  else if c = 't' then some '\t'
  else none

/-- Reads a literal from behind its opening quote: what it denotes, and what comes after it. -/
def readContent : List Char → Option (List Char × List Char)
  | [] => none
  | '\\' :: c :: cs => do
    let d ← escaped? c
    let (content, rest) ← readContent cs
    return (d :: content, rest)
  | c :: cs =>
    if c = '"' then some ([], cs)
    else if c = '\n' ∨ c = '\\' then none
    else do
      let (content, rest) ← readContent cs
      return (c :: content, rest)

/-- Reads a literal: what it denotes, and what comes after it. -/
def readLiteral : List Char → Option (List Char × List Char)
  | '"' :: cs => readContent cs
  | _ => none

/-- The text that a literal denotes, if there is nothing else. -/
def denoted? (s : String) : Option String :=
  match readLiteral s.toList with
  | some (content, []) => some (String.ofList content)
  | _ => none

/-! ### Written literals are read back -/

theorem readContent_escaped {c d : Char} (h : escaped? d = some c) (cs : List Char) :
    readContent ('\\' :: d :: cs) =
      (readContent cs).map fun (content, rest) => (c :: content, rest) := by
  rw [readContent, h]
  cases readContent cs <;> rfl

theorem readContent_plain {c : Char} (hquote : c ≠ '"') (hslash : c ≠ '\\') (hfeed : c ≠ '\n')
    (cs : List Char) :
    readContent (c :: cs) = (readContent cs).map fun (content, rest) => (c :: content, rest) := by
  -- The equation for an escape comes first, so the one for other characters asks that it is none.
  rw [readContent.eq_3 _ _ fun _ _ hc _ => hslash hc]
  rw [if_neg hquote, if_neg (not_or.mpr ⟨hfeed, hslash⟩)]
  cases readContent cs <;> rfl

/-- The reader takes in one character as it stands in a literal. -/
theorem readContent_escapeInLiteral (c : Char) (cs : List Char) :
    readContent (escapeInLiteral c ++ cs) =
      (readContent cs).map fun (content, rest) => (c :: content, rest) := by
  unfold escapeInLiteral
  split_ifs with hquote hslash hfeed htab
  · subst hquote
    exact readContent_escaped rfl cs
  · subst hslash
    exact readContent_escaped rfl cs
  · subst hfeed
    exact readContent_escaped rfl cs
  · subst htab
    exact readContent_escaped rfl cs
  · exact readContent_plain hquote hslash hfeed cs

theorem readContent_flatMap (cs rest : List Char) :
    readContent (cs.flatMap escapeInLiteral ++ '"' :: rest) = some (cs, rest) := by
  induction cs with
  | nil => simp [readContent]
  | cons c cs ih =>
    rw [List.flatMap_cons, List.append_assoc, readContent_escapeInLiteral, ih]
    rfl

/-- The literal for some characters is read as these characters, whatever follows it. -/
theorem readLiteral_literalChars (cs rest : List Char) :
    readLiteral (literalChars cs ++ rest) = some (cs, rest) := by
  rw [literalChars, List.cons_append, List.append_assoc, List.singleton_append]
  exact readContent_flatMap cs rest

theorem denoted?_literal (s : String) : denoted? (literal s) = some s := by
  have hread := readLiteral_literalChars s.toList []
  rw [List.append_nil] at hread
  simp [denoted?, literal, hread]

/-- A line break is always escaped. -/
theorem oneLine_literal (s : String) : Text.OneLine (literal s) := by
  have hesc : ∀ c : Char, '\n' ∉ escapeInLiteral c := by
    intro c
    unfold escapeInLiteral
    split_ifs with hquote hslash hfeed htab
    · decide
    · decide
    · decide
    · decide
    · simpa using Ne.symm hfeed
  simp [Text.OneLine, literal, literalChars, hesc]

/-- The literal of a text is read as this text, whatever follows, and all that follows is left. So
no two texts have the same literal. No literal goes on to the next line. -/
theorem literal_undone :
    (∀ s rest : String, readLiteral (literal s ++ rest).toList = some (s.toList, rest.toList)) ∧
    Function.Injective literal ∧ ∀ s : String, '\n' ∉ (literal s).toList := by
  have hread : ∀ s rest : String,
      readLiteral (literal s ++ rest).toList = some (s.toList, rest.toList) := by
    intro s rest
    rw [String.toList_append, literal, String.toList_ofList]
    exact readLiteral_literalChars s.toList rest.toList
  refine ⟨hread, ?injective, oneLine_literal⟩
  case injective =>
    intro s t heq
    have hboth : some (s.toList, "".toList) = some (t.toList, "".toList) := by
      rw [← hread s "", ← hread t "", heq]
    exact String.toList_inj.mp (Prod.mk.inj (Option.some.inj hboth)).1

/-- A text that ends in a backslash, before a text that starts with a quote. -/
example : readLiteral (literal "a\\" ++ "\"b").toList = some ("a\\".toList, "\"b".toList) := by
  decide

end GoEnum.Lexeme

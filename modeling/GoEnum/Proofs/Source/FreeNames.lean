/-
  What the methods in a text refer to.

  A line is read as words and signs `:=`, character by character in a `Mode`. What
  stands in quotes is left out, and so is a word after a dot, which belongs to what
  stands before the dot. A word in the body of a function is free if it is no keyword
  and the function does not bind it, neither as a parameter nor by a sign: it means what
  the package, its imports or the language give it. The readers are stated for texts of
  any origin; the lemmas say what they find in a line that is put together from words
  and from pieces between words.
-/
import GoEnum.Proofs.Source.Functions
import GoEnum.Proofs.Text.SmallAscii

namespace GoEnum.Source

open Text Lexeme

/-! ### Readers -/

/-- What a line consists of, as far as names go. -/
inductive Token where
  /-- A name, a keyword or a number. -/
  | word (s : String)
  /-- The sign that declares what stands before it. -/
  | define
deriving Repr, DecidableEq

/-- Where the reader is in a line. -/
inductive Mode where
  /-- Between two words. -/
  | between
  /-- In a word, after some of its characters. -/
  | word (cs : List Char)
  /-- After a dot, or in the word that follows it. -/
  | selected
  /-- After a colon. -/
  | colon
  /-- Between double quotes. -/
  | quoted
  /-- After a backslash there. -/
  | escape
deriving Repr, DecidableEq

/-- Whether a character can be part of a word. All characters beyond ASCII can. -/
def isInWord (c : Char) : Bool :=
  c.isAlphanum || c == '_' || Nat.ble 0x80 c.toNat

/-- The mode after a character that goes on with nothing. -/
def startAt (c : Char) : Mode :=
  if isInWord c then .word [c]
  else if c = '.' then .selected
  else if c = ':' then .colon
  else if c = '"' then .quoted
  else .between

/-- The tokens that end at a character, and the mode after it. -/
def stepToken : Mode → Char → List Token × Mode
  | .between, c => ([], startAt c)
  | .word cs, c =>
    if isInWord c then ([], .word (cs ++ [c])) else ([.word (String.ofList cs)], startAt c)
  | .selected, c => ([], if isInWord c then .selected else startAt c)
  | .colon, c => if c = '=' then ([.define], .between) else ([], startAt c)
  | .quoted, c => ([], if c = '"' then .between else if c = '\\' then .escape else .quoted)
  | .escape, _ => ([], .quoted)

/-- Reads on in some mode. -/
def readTokens : Mode → List Char → List Token
  | .word cs, [] => [.word (String.ofList cs)]
  | _, [] => []
  | mode, c :: cs => (stepToken mode c).1 ++ readTokens (stepToken mode c).2 cs

/-- The tokens of a line. -/
def tokens (line : String) : List Token :=
  readTokens .between line.toList

/-- The words among some tokens. -/
def wordsOf (ts : List Token) : List String :=
  ts.filterMap fun
    | .word s => some s
    | .define => none

/-- The words that a line declares: those before the first sign that does so. -/
def declaredBy (ts : List Token) : List String :=
  if .define ∈ ts then wordsOf (ts.takeWhile (· != .define)) else []

/-- The words that are neither keywords nor bound. -/
def freeWords (bound words : List String) : List String :=
  words.filter fun s => !keywords.contains s && !bound.contains s

/-- The names that a function binds: its parameters, and what the lines of its body declare. -/
def Function.bindings (f : Function) : List String :=
  f.parameters ++ f.body.flatMap fun l => declaredBy (tokens l)

/-- What the body of a function refers to outside the function, in the order of the references. -/
def Function.free (f : Function) : List String :=
  freeWords f.bindings (wordsOf (f.body.flatMap tokens))

/-- Whether a function has a receiver. -/
def Function.isMethod (f : Function) : Bool :=
  "func (".toList.isPrefixOf f.header.toList

/-- What the methods in a text refer to that has some lines, method by method. -/
def methodReferences (ls : List String) : List (List String) :=
  ((functionsIn ls).filter Function.isMethod).map Function.free

/-! ### Tokens of lines -/

/-- The mode after some characters. -/
def Mode.after (mode : Mode) (cs : List Char) : Mode :=
  cs.foldl (fun mode c => (stepToken mode c).2) mode

/-- Nothing is pending outside words, so what was read stands. -/
theorem readTokens_append (cs ds : List Char) {mode : Mode} :
    ∀ {start : Mode}, start.after cs = mode → (∀ w, mode ≠ .word w) →
      readTokens start (cs ++ ds) = readTokens start cs ++ readTokens mode ds := by
  induction cs with
  | nil =>
    intro start h hmode
    obtain rfl : start = mode := h
    cases start with
    | word w => exact absurd rfl (hmode w)
    | _ => rfl
  | cons c cs ih =>
    intro start h hmode
    have hrest : readTokens (stepToken start c).2 (cs ++ ds) =
        readTokens (stepToken start c).2 cs ++ readTokens mode ds := ih h hmode
    rw [List.cons_append, readTokens, hrest, readTokens, List.append_assoc]

theorem tokens_append {s : String} (h : Mode.between.after s.toList = .between) (t : String) :
    tokens (s ++ t) = tokens s ++ tokens t := by
  rw [tokens, String.toList_append]
  exact readTokens_append s.toList t.toList h (by simp)

@[simp] theorem tokens_indented (l : String) : tokens ("\t" ++ l) = tokens l := by
  rw [tokens_append (by decide), show tokens "\t" = [] from rfl, List.nil_append]

/-- Whether a text is a single word. -/
def IsWord (s : String) : Prop :=
  s.toList ≠ [] ∧ s.toList.all isInWord = true

instance : DecidablePred IsWord := fun s =>
  inferInstanceAs (Decidable (s.toList ≠ [] ∧ s.toList.all isInWord = true))

/-- Whether no word goes on into a text. -/
def EndsWord (s : String) : Prop :=
  s.toList.head?.any isInWord = false

instance : DecidablePred EndsWord := fun s =>
  inferInstanceAs (Decidable (s.toList.head?.any isInWord = false))

theorem readTokens_word {cs : List Char} (h : ∀ c ∈ cs, isInWord c = true) (ds : List Char) :
    ∀ w, readTokens (.word w) (cs ++ ds) = readTokens (.word (w ++ cs)) ds := by
  induction cs with
  | nil => simp
  | cons c cs ih =>
    intro w
    obtain ⟨hc, hcs⟩ := List.forall_mem_cons.mp h
    have hstep : stepToken (.word w) c = ([], .word (w ++ [c])) := by
      simp [stepToken, hc]
    rw [List.cons_append, readTokens, hstep, List.nil_append, ih hcs, List.append_assoc,
      List.singleton_append]

/-- No word goes on into what starts with another character. -/
theorem endsWord_append {s : String} (h : s.toList.head?.any (!isInWord ·) = true) (t : String) :
    EndsWord (s ++ t) := by
  cases hcs : s.toList with
  | nil => simp [hcs] at h
  | cons c cs =>
    rw [hcs] at h
    simpa [EndsWord, hcs] using h

/-- A word is a token, if what follows does not go on with it. -/
theorem tokens_word_append {s t : String} (hs : IsWord s) (ht : EndsWord t) :
    tokens (s ++ t) = .word s :: tokens t := by
  obtain ⟨hne, hword⟩ := hs
  obtain ⟨c, cs, hcs⟩ := List.exists_cons_of_ne_nil hne
  have hspell : String.ofList (c :: cs) = s := by
    rw [← hcs, String.ofList_toList]
  rw [hcs, List.all_cons, Bool.and_eq_true, List.all_eq_true] at hword
  have hstep : stepToken .between c = ([], .word [c]) := by
    simp [stepToken, startAt, hword.1]
  rw [tokens, String.toList_append, hcs, List.cons_append, readTokens, hstep, List.nil_append,
    readTokens_word hword.2, List.singleton_append]
  cases hds : t.toList with
  | nil => simp [tokens, readTokens, hds, hspell]
  | cons d ds =>
    have hd : isInWord d = false := by simpa [EndsWord, hds] using ht
    rw [readTokens, tokens, hds, readTokens]
    simp [stepToken, hd, hspell]

/-- A word in quotes leaves no trace. -/
theorem tokens_quoted {s w : String} (h : Mode.between.after s.toList = .quoted)
    (hw : w.toList.all isInWord = true) (t : String) :
    tokens (s ++ (w ++ t)) = tokens (s ++ t) := by
  -- Only a quote or a backslash would matter here, and a word has neither.
  have hskip : ∀ cs : List Char, (∀ c ∈ cs, isInWord c = true) →
      readTokens .quoted (cs ++ t.toList) = readTokens .quoted t.toList := by
    intro cs hcs
    induction cs with
    | nil => rfl
    | cons c cs ih =>
      obtain ⟨hc, hcs⟩ := List.forall_mem_cons.mp hcs
      have hquote : c ≠ '"' := by
        rintro rfl
        exact absurd hc (by decide)
      have hbackslash : c ≠ '\\' := by
        rintro rfl
        exact absurd hc (by decide)
      have hstep : stepToken .quoted c = ([], .quoted) := by
        simp [stepToken, hquote, hbackslash]
      rw [List.cons_append, readTokens, hstep, List.nil_append, ih hcs]
  rw [tokens, tokens, String.toList_append, String.toList_append, String.toList_append,
    readTokens_append s.toList _ h (by simp), readTokens_append s.toList _ h (by simp),
    hskip _ (List.all_eq_true.mp hw)]

/-- A word after a piece that leaves nothing pending. -/
theorem tokens_append_word {s w t : String} (hs : Mode.between.after s.toList = .between)
    (hw : IsWord w) (ht : EndsWord t) :
    tokens (s ++ (w ++ t)) = tokens s ++ .word w :: tokens t := by
  rw [tokens_append hs, tokens_word_append hw ht]

/-! ### Words -/

theorem isInWord_of_isWordChar {c : Char} (h : isWordChar c = true) : isInWord c = true := by
  by_cases hascii : c.toNat < 0x80
  · rw [isWordChar_ascii hascii] at h
    rw [isInWord, Bool.or_comm c.isAlphanum, h, Bool.true_or]
  · simp [isInWord, Nat.le_of_not_lt hascii]

theorem isWord_of_isIdentifier {s : String} (h : isIdentifier s = true) : IsWord s :=
  ⟨toList_ne_nil_of_isIdentifier h, List.all_eq_true.mpr fun c hc =>
    isInWord_of_isWordChar (isWordChar_of_isIdentifier h c hc)⟩

theorem isWord_append {s t : String} (hs : IsWord s) (ht : t.toList.all isInWord = true) :
    IsWord (s ++ t) := by
  obtain ⟨hne, hs⟩ := hs
  refine ⟨by simp [hne], ?_⟩
  rw [String.toList_append, List.all_append, hs, ht]
  rfl

theorem isInWord_of_isLower {c : Char} (h : c.isLower = true) : isInWord c = true := by
  have hletter : c.isAlphanum = ((c.isUpper || c.isLower) || c.isDigit) := rfl
  rw [isInWord, hletter, h]
  simp

/-- Bringing a word to small letters leaves it a word. -/
theorem isWord_lowercase {s : String} (h : IsWord s) : IsWord (lowercase s) := by
  obtain ⟨hne, hword⟩ := h
  constructor
  · intro hnil
    have hle := length_le_length_lowercase s
    rw [← String.length_toList (s := lowercase s), hnil, ← String.length_toList] at hle
    exact hne (List.length_eq_zero_iff.mp (Nat.le_zero.mp hle))
  · refine List.all_eq_true.mpr fun d hd => ?_
    rcases mem_lowercase_cases hd with hsmall | hlower | hle
    · obtain ⟨c, hc, rfl⟩ := List.mem_map.mp hsmall
      cases hupper : c.isUpper with
      | true => exact isInWord_of_isLower (isLower_toLower hupper)
      | false =>
        rw [toLower_of_not_isUpper hupper]
        exact List.all_eq_true.mp hword c hc
    · exact isInWord_of_isLower hlower
    · simp [isInWord, hle]

/-! ### Pieces of several words -/

/-- Whether a text reads as some words wherever no word goes on after it. -/
def ReadsAs (s : String) (words : List String) : Prop :=
  ∀ t, EndsWord t → tokens (s ++ t) = words.map Token.word ++ tokens t

theorem IsWord.readsAs {s : String} (h : IsWord s) : ReadsAs s [s] :=
  fun _ ht => tokens_word_append h ht

/-- Words between commas read as the words that they are. -/
theorem readsAs_intercalate {words : List String} (h : ∀ w ∈ words, IsWord w) :
    ReadsAs (", ".intercalate words) words := by
  induction words with
  | nil =>
    intro t _
    rw [String.intercalate_nil, String.empty_append]
    rfl
  | cons w ws ih =>
    obtain ⟨hw, hws⟩ := List.forall_mem_cons.mp h
    by_cases hnil : ws = []
    · rw [hnil]
      exact hw.readsAs
    · intro t ht
      have hcomma : tokens ", " = [] := by decide
      rw [String.intercalate_cons_of_ne_nil hnil, String.append_assoc, String.append_assoc,
        tokens_word_append hw (endsWord_append (by decide) _), tokens_append (by decide), hcomma,
        List.nil_append, ih hws t ht]
      rfl

/-- A line that returns something. -/
theorem tokens_return {s : String} {words : List String} (h : ReadsAs s words) :
    tokens ("return " ++ s) = ("return" :: words).map Token.word := by
  have hreturn : tokens "return " = [.word "return"] := by decide
  have hend := h "" (by decide)
  rw [String.append_empty] at hend
  rw [tokens_append (by decide), hreturn, hend]
  simp [tokens, readTokens]

/-! ### Methods of sections -/

/-- Whether the methods in some lines, wherever they stand, refer to just these names. -/
def Refers (ls : List String) (references : List (List String)) : Prop :=
  ∀ rest, methodReferences (ls ++ rest) = references ++ methodReferences rest

theorem Declares.refers {ls : List String} {functions : List Function}
    (h : Declares ls functions) :
    Refers ls ((functions.filter Function.isMethod).map Function.free) := by
  intro rest
  rw [methodReferences, h, List.filter_append, List.map_append, methodReferences]

theorem Refers.append {ls ks : List String} {first second : List (List String)}
    (hls : Refers ls first) (hks : Refers ks second) : Refers (ls ++ ks) (first ++ second) := by
  intro rest
  rw [List.append_assoc, hls, hks, List.append_assoc]

/-- Lines that start no function have no methods. -/
theorem refers_nil {ls : List String} (h : ∀ l ∈ ls, l.toList.head? ≠ some 'f') : Refers ls [] :=
  (declares_of_head? h).refers

/-- The methods of a file are those of its sections. -/
theorem methodReferences_fileLines {sections : List (List String)}
    {references : List (List (List String))} (h : List.Forall₂ Refers sections references) :
    methodReferences (fileLines sections ++ [""]) = references.flatten := by
  have hempty : Refers [""] [] := refers_nil (by decide)
  have hall : Refers (fileLines sections) references.flatten := by
    cases h with
    | nil => exact refers_nil (by simp [fileLines])
    | @cons s first after rest hs hafter =>
      rw [fileLines_cons, List.flatten_cons]
      refine hs.append ?_
      clear hs
      induction hafter with
      | nil => exact refers_nil (by simp)
      | cons ht _ ih => exact (hempty.append ht).append ih
  have hnone : methodReferences [""] = [] := by
    simpa [methodReferences, functionsIn] using hempty []
  rw [hall, hnone, List.append_nil]

/-- A function below a comment is no method. -/
theorem refers_function {comment : List String}
    (hcomment : ∀ l ∈ comment, l.toList.head? ≠ some 'f') {s t header : String}
    (hs : IsBindable s) (hheader : header = "func " ++ s ++ t) (body : List String) :
    Refers (comment ++ block header body) [] := by
  have hopens : "func ".toList <+: header.toList := by
    simp [hheader, List.IsPrefix]
  have hnot : Function.isMethod ⟨header ++ " \x7b", indent body⟩ = false := by
    rw [Function.isMethod, hheader, String.append_assoc]
    exact not_isPrefixOf_function hs _
  have hblock := (declares_block hopens body).refers
  rw [List.filter_cons_of_neg (by simp [hnot])] at hblock
  exact (refers_nil hcomment).append hblock

/-- A method below a comment refers to what is free in its lines. -/
theorem refers_method (comment : String) (hcomment : comment.toList.head? = some '/')
    {header : String} (hheader : "func (".toList <+: header.toList)
    {body parameters declared : List String}
    (hparameters : Function.parameters ⟨header ++ " \x7b", indent body⟩ = parameters)
    (hdeclared : (body.flatMap fun l => declaredBy (tokens l)) = declared) :
    Refers (comment :: block header body)
      [freeWords (parameters ++ declared) (wordsOf (body.flatMap tokens))] := by
  have hopens : "func ".toList <+: header.toList := (by decide : "func ".toList <+: _).trans hheader
  have hmethod : Function.isMethod ⟨header ++ " \x7b", indent body⟩ = true := by
    rw [Function.isMethod, List.isPrefixOf_iff_prefix, String.toList_append]
    exact hheader.trans (List.prefix_append _ _)
  have hfree : Function.free ⟨header ++ " \x7b", indent body⟩ =
      freeWords (parameters ++ declared) (wordsOf (body.flatMap tokens)) := by
    rw [Function.free, Function.bindings, hparameters, ← hdeclared, indent]
    simp only [List.flatMap_map, tokens_indented]
  have hblock := (declares_block hopens body).refers
  rw [List.filter_cons_of_pos (by simp [hmethod]), List.filter_nil, List.map_singleton,
    hfree] at hblock
  have hfirst : Refers [comment] [] := refers_nil (by simp [hcomment])
  exact hfirst.append hblock

end GoEnum.Source

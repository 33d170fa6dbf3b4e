/-
  The functions in a text, with their parameters and what they call.

  A function starts at the start of a line with its keyword and goes on to the
  next line that is a closing brace. Its parameters are the first words between
  the commas of its first pair of brackets, and of the second one too if it has a
  receiver. A name is called on a line where it stands right before an opening
  bracket, which is also how a conversion to a type of that name is written. The
  readers are stated for texts of any origin; the lemmas say what they find in
  lines that are put together from pieces.
-/
import GoEnum.Proofs.Source.Reading
import Mathlib.Data.List.DropRight

namespace GoEnum.Source

open Text Lexeme

/-! ### Readers -/

/-- A function as it is written: the line with its keyword, and the lines up to its end. -/
structure Function where
  /-- The first line. -/
  header : String
  /-- The lines between the first line and the closing brace. -/
  body : List String

/-- Whether a function starts on a line. -/
def opensFunction (line : String) : Bool :=
  "func ".toList.isPrefixOf line.toList

/-- The functions in a text that has some lines. -/
def functionsIn : List String → List Function
  | [] => []
  | l :: ls =>
    if opensFunction l then ⟨l, ls.takeWhile (· != "\x7d")⟩ :: functionsIn ls else functionsIn ls

/-- What stands before, between and after the opening brackets of a line. -/
def pieces (line : String) : List (List Char) :=
  line.toList.splitOn '('

/-- Whether a character can be part of a name, or of the name of something in a package. -/
def isNameChar (c : Char) : Bool :=
  isWordChar c || c == '.'

/-- The name that a text ends with. -/
def lastName (s : String) : String :=
  String.ofList (s.toList.rtakeWhile isNameChar)

/-- The names that stand right before an opening bracket. -/
def called (line : String) : List String :=
  (pieces line).dropLast.map fun piece => lastName (String.ofList piece)

/-- What stands in the pairs of brackets of a line. -/
def groups (line : String) : List String :=
  (pieces line).tail.map fun piece => String.ofList (piece.takeWhile (· != ')'))

/-- The first words of what stands between commas. -/
def bound (group : String) : List String :=
  ((group.toList.splitOn ',').map fun item => firstWord (String.ofList item)).filter (· != "")

/-- The names of the parameters of a function, that of its receiver included. -/
def Function.parameters (f : Function) : List String :=
  let count := if "func (".toList.isPrefixOf f.header.toList then 2 else 1
  ((groups f.header).take count).flatMap bound

/-- The names of what a function calls, and of the types that it converts to. -/
def Function.calls (f : Function) : List String :=
  f.body.flatMap called

/-! ### Pieces of lines -/

theorem splitOn_append_of_not_mem {c : Char} {cs : List Char} (h : c ∉ cs) (ds : List Char) :
    (cs ++ ds).splitOn c = (ds.splitOn c).modifyHead (cs ++ ·) := by
  induction cs with
  | nil => cases hds : ds.splitOn c <;> simp [hds]
  | cons d cs ih =>
    obtain ⟨hne, hcs⟩ : c ≠ d ∧ c ∉ cs := by simpa using h
    have hd : (d == c) = false := beq_false_of_ne hne.symm
    rw [List.cons_append, List.splitOn_cons_eq_if_modifyHead, hd, if_neg (by simp), ih hcs]
    cases ds.splitOn c <;> simp

theorem pieces_of_not_mem {s : String} (h : '(' ∉ s.toList) : pieces s = [s.toList] :=
  List.splitOn_eq_singleton h

theorem pieces_append {s : String} (h : '(' ∉ s.toList) (t : String) :
    pieces (s ++ "(" ++ t) = s.toList :: pieces t := by
  rw [pieces, String.append_assoc, String.toList_append, String.toList_append]
  exact List.splitOn_append_cons_self_of_not_mem h t.toList

theorem called_eq_nil {s : String} (h : '(' ∉ s.toList) : called s = [] := by
  rw [called, pieces_of_not_mem h]
  rfl

theorem called_append {s : String} (h : '(' ∉ s.toList) (t : String) :
    called (s ++ "(" ++ t) = lastName s :: called t := by
  have hne : pieces t ≠ [] := List.splitOn_ne_nil _ _
  rw [called, pieces_append h, List.dropLast_cons_of_ne_nil hne, List.map_cons,
    String.ofList_toList]
  rfl

/-- A name is the last one of a text if no part of a name stands before it. -/
theorem lastName_append {s name : String}
    (hs : ∀ c ∈ s.toList.getLast?, isNameChar c = false)
    (hname : ∀ c ∈ name.toList, isNameChar c = true) : lastName (s ++ name) = name := by
  have hreverse : ∀ c ∈ name.toList.reverse, isNameChar c = true := by simpa using hname
  have hstop : s.toList.reverse.takeWhile isNameChar = [] := by
    rw [List.getLast?_eq_head?_reverse] at hs
    cases hcs : s.toList.reverse with
    | nil => rfl
    | cons c cs =>
      rw [hcs] at hs
      exact List.takeWhile_cons_of_neg (by simp [hs c rfl])
  rw [lastName, List.rtakeWhile, String.toList_append, List.reverse_append,
    List.takeWhile_append_of_pos hreverse, hstop, List.append_nil, List.reverse_reverse,
    String.ofList_toList]

/-- No name goes on across a tab, so the names are the same after a line is indented. -/
theorem called_indented (l : String) : called ("\t" ++ l) = called l := by
  have htab : '(' ∉ "\t".toList := by decide
  have hname : ∀ piece : List Char, lastName (String.ofList ("\t".toList ++ piece)) =
      lastName (String.ofList piece) := by
    intro piece
    have hstop : ['\t'].takeWhile isNameChar = [] :=
      List.takeWhile_cons_of_neg (by simp [isNameChar, isWordChar_ascii])
    simp only [lastName, String.toList_ofList, List.rtakeWhile]
    rw [show "\t".toList = ['\t'] from rfl, List.reverse_append, List.reverse_singleton]
    -- The name at the end of a piece reaches the tab only if the piece is nothing but a name.
    by_cases hall : ∀ c ∈ piece.reverse, isNameChar c = true
    · rw [List.takeWhile_append_of_pos hall, hstop, List.append_nil,
        List.takeWhile_eq_self_iff.mpr hall]
    · rw [List.takeWhile_append, if_neg]
      intro hlength
      exact hall (List.takeWhile_eq_self_iff.mp ((List.takeWhile_prefix _).eq_of_length hlength))
  rw [called, called, pieces, String.toList_append, splitOn_append_of_not_mem htab, ← pieces]
  cases hcs : pieces l with
  | nil => exact absurd hcs (List.splitOn_ne_nil _ _)
  | cons first rest =>
    cases rest with
    | nil => rfl
    | cons second rest =>
      rw [List.modifyHead_cons, List.dropLast_cons_cons, List.dropLast_cons_cons, List.map_cons,
        List.map_cons, hname]

@[simp] theorem flatMap_called_indent (ls : List String) :
    (indent ls).flatMap called = ls.flatMap called := by
  rw [indent, List.flatMap_map]
  simp only [called_indented]

/-- The first pair of brackets of a line, and the others. -/
theorem groups_append {s p : String} (hs : '(' ∉ s.toList) (hp : '(' ∉ p.toList)
    (hclose : ')' ∉ p.toList) (t : String) :
    groups (s ++ "(" ++ (p ++ (")" ++ t))) = p :: groups t := by
  have hpiece : '(' ∉ (p ++ ")").toList := by
    simp [hp]
  have hpieces : pieces (p ++ (")" ++ t)) = (pieces t).modifyHead ((p ++ ")").toList ++ ·) := by
    rw [pieces, ← String.append_assoc, String.toList_append, splitOn_append_of_not_mem hpiece]
    rfl
  have hmem : ∀ c ∈ p.toList, (c != ')') = true := by
    intro c hc
    exact bne_iff_ne.mpr fun heq => hclose (heq ▸ hc)
  rw [groups, pieces_append hs, hpieces, List.tail_cons, groups]
  cases hcs : pieces t with
  | nil => exact absurd hcs (List.splitOn_ne_nil _ _)
  | cons first rest =>
    rw [List.modifyHead_cons, List.map_cons, String.toList_append, List.append_assoc,
      List.takeWhile_append_of_pos hmem]
    simp

/-! ### Parameters -/

/-- Whether a character comes between the names in a header. -/
def delimits (c : Char) : Bool :=
  separatesWords c || c == ',' || c == '(' || c == ')'

/-- Whether a text can be read as a name in a header. -/
def IsBindable (s : String) : Prop :=
  s.toList ≠ [] ∧ ∀ c ∈ s.toList, delimits c = false

instance : DecidablePred IsBindable := fun s =>
  decidable_of_iff (s.toList.isEmpty = false ∧ s.toList.all (!delimits ·) = true) (by
    simp [IsBindable])

theorem IsBindable.not_mem {s : String} (h : IsBindable s) {c : Char} (hc : delimits c = true) :
    c ∉ s.toList := by
  intro hmem
  rw [h.2 c hmem] at hc
  exact Bool.noConfusion hc

theorem isBindable_of_isIdentifier {s : String} (h : isIdentifier s = true) : IsBindable s := by
  refine ⟨toList_ne_nil_of_isIdentifier h, fun c hc => ?_⟩
  have hword := isWordChar_of_isIdentifier h c hc
  cases hdelimits : delimits c with
  | false => rfl
  | true =>
    have hcases : ((c = ' ' ∨ c = '\t') ∨ c = ',') ∨ c = '(' ∨ c = ')' := by
      simpa [delimits, separatesWords, or_assoc] using hdelimits
    rcases hcases with ((rfl | rfl) | rfl) | rfl | rfl <;> simp [isWordChar_ascii] at hword

theorem isBindable_append {s t : String} (hs : IsBindable s) (ht : IsBindable t) :
    IsBindable (s ++ t) := by
  obtain ⟨hne, hs⟩ := hs
  refine ⟨by simp [hne], fun c hc => ?_⟩
  rw [String.toList_append] at hc
  rcases List.mem_append.mp hc with hc | hc
  · exact hs c hc
  · exact ht.2 c hc

@[simp] theorem bound_empty : bound "" = [] := by
  decide

/-- A name and its type, and no comma: the name is bound. -/
theorem bound_append {s t : String} (hs : IsBindable s) (ht : ',' ∉ t.toList)
    (hblank : ∀ c ∈ t.toList.head?, separatesWords c = true) : bound (s ++ t) = [s] := by
  have hword : ∀ c ∈ s.toList, separatesWords c = false := by
    intro c hc
    have hnone := hs.2 c hc
    simp only [delimits, Bool.or_eq_false_iff] at hnone
    exact hnone.1.1.1
  have hcut : (s ++ t).toList.splitOn ',' = [(s ++ t).toList] := by
    apply List.splitOn_eq_singleton
    simp [hs.not_mem (c := ',') rfl, ht]
  have hfirst : firstWord (s ++ t) = s := firstWord_append hs.1 hword hblank
  have hne : s ≠ "" := by
    rintro rfl
    exact hs.1 rfl
  rw [bound, hcut, List.map_singleton, String.ofList_toList, hfirst]
  simp [hne]

/-- A function that has a name right after the keyword has no receiver. -/
theorem not_isPrefixOf_function {s : String} (hs : IsBindable s) (t : String) :
    "func (".toList.isPrefixOf ("func " ++ s ++ t).toList = false := by
  cases hcs : s.toList with
  | nil => exact absurd hcs hs.1
  | cons c cs =>
    have hc : '(' ≠ c := by
      rintro rfl
      exact hs.not_mem rfl (hcs ▸ List.mem_cons_self)
    simp [hcs, List.isPrefixOf, hc]

theorem parameters_function {s p : String} (hs : IsBindable s) (hp : '(' ∉ p.toList)
    (hclose : ')' ∉ p.toList) (t : String) (body : List String) :
    Function.parameters ⟨"func " ++ s ++ "(" ++ (p ++ (")" ++ t)), body⟩ = bound p := by
  have hopen : '(' ∉ ("func " ++ s).toList := by
    simp [hs.not_mem (c := '(') rfl]
  have hmethod : "func (".toList.isPrefixOf
      ("func " ++ s ++ "(" ++ (p ++ (")" ++ t))).toList = false := by
    rw [String.append_assoc]
    exact not_isPrefixOf_function hs _
  simp only [Function.parameters, hmethod, groups_append hopen hp hclose]
  simp

theorem parameters_method {q m p : String} (hq : '(' ∉ q.toList) (hqclose : ')' ∉ q.toList)
    (hm : '(' ∉ m.toList) (hp : '(' ∉ p.toList) (hclose : ')' ∉ p.toList) (t : String)
    (body : List String) :
    Function.parameters
        ⟨"func " ++ "(" ++ (q ++ (")" ++ (m ++ "(" ++ (p ++ (")" ++ t))))), body⟩ =
      bound q ++ bound p := by
  have hmethod : "func (".toList.isPrefixOf
      ("func " ++ "(" ++ (q ++ (")" ++ (m ++ "(" ++ (p ++ (")" ++ t)))))).toList = true := by
    simp [List.isPrefixOf]
  simp only [Function.parameters, hmethod, groups_append (s := "func ") (by decide) hq hqclose,
    groups_append hm hp hclose]
  simp

/-! ### Functions -/

/-- Whether some lines, wherever they stand, hold just the functions of a list. -/
def Declares (ls : List String) (functions : List Function) : Prop :=
  ∀ rest, functionsIn (ls ++ rest) = functions ++ functionsIn rest

theorem Declares.append {ls ks : List String} {fs gs : List Function} (hls : Declares ls fs)
    (hks : Declares ks gs) : Declares (ls ++ ks) (fs ++ gs) := by
  intro rest
  rw [List.append_assoc, hls, hks, List.append_assoc]

theorem declares_nil {ls : List String} (h : ∀ l ∈ ls, opensFunction l = false) :
    Declares ls [] := by
  intro rest
  induction ls with
  | nil => rfl
  | cons l ls ih =>
    obtain ⟨hl, hls⟩ := List.forall_mem_cons.mp h
    rw [List.cons_append, functionsIn, hl]
    exact ih hls

theorem opensFunction_eq_false {l : String} (h : l.toList.head? ≠ some 'f') :
    opensFunction l = false := by
  cases hcs : l.toList with
  | nil => simp [opensFunction, hcs]
  | cons c cs =>
    have hc : 'f' ≠ c := by
      rintro rfl
      exact h (by simp [hcs])
    simp [opensFunction, hcs, List.isPrefixOf, hc]

theorem opensFunction_indent (body : List String) : ∀ l ∈ indent body, opensFunction l = false := by
  intro l hl
  obtain ⟨b, -, rfl⟩ := List.mem_map.mp hl
  exact opensFunction_eq_false (by simp)

/-- What is in brackets holds no function, if it does not start with one. -/
theorem declares_enclosed {opening closing : String} (hopening : opening.toList.head? ≠ some 'f')
    (hclosing : closing.toList.head? ≠ some 'f') (body : List String) :
    Declares (enclosed opening body closing) [] := by
  apply declares_nil
  intro l hl
  rw [enclosed, List.mem_cons, List.mem_append, List.mem_singleton] at hl
  rcases hl with rfl | hl | rfl
  · exact opensFunction_eq_false hopening
  · exact opensFunction_indent body l hl
  · exact opensFunction_eq_false hclosing

/-- A block after the keyword is a function, and its body is what the braces enclose. -/
theorem declares_block {header : String} (h : "func ".toList <+: header.toList)
    (body : List String) : Declares (block header body) [⟨header ++ " \x7b", indent body⟩] := by
  intro rest
  have hopens : opensFunction (header ++ " \x7b") = true := by
    rw [opensFunction, List.isPrefixOf_iff_prefix, String.toList_append]
    exact h.trans (List.prefix_append _ _)
  -- A closing brace inside the body is indented, so it does not end the function.
  have hends : ∀ l ∈ indent body, (l != "\x7d") = true := by
    intro l hl
    refine bne_iff_ne.mpr ?_
    rintro rfl
    exact not_mem_indent (by decide) body hl
  have hbody : Declares (indent body ++ ["\x7d"]) [] :=
    (declares_nil (opensFunction_indent body)).append (declares_nil (by decide))
  rw [block, enclosed, List.cons_append, functionsIn, if_pos hopens, hbody, List.append_assoc,
    List.takeWhile_append_of_pos hends]
  simp

/-! ### Sections without functions -/

theorem declares_of_head? {ls : List String} (h : ∀ l ∈ ls, l.toList.head? ≠ some 'f') :
    Declares ls [] :=
  declares_nil fun l hl => opensFunction_eq_false (h l hl)

theorem declares_preamble (commandLine name backedBy underlying : String) :
    ∀ s ∈ preamble commandLine name backedBy underlying, Declares s [] := by
  simp only [preamble, List.forall_mem_cons, List.not_mem_nil, false_implies, implies_true,
    and_true]
  exact ⟨declares_of_head? (by simp [marker]), declares_of_head? (by simp [packageClause]),
    declares_enclosed (by decide) (by decide) _, declares_of_head? (by simp [typeDeclaration])⟩

theorem declares_constGroup (body : List String) : Declares (group "const" body) [] :=
  declares_enclosed (by decide) (by decide) body

theorem declares_errorDeclaration (name source : String) :
    Declares (errorDeclaration name source) [] :=
  declares_of_head? (by simp [errorDeclaration])

end GoEnum.Source

/-
  The lines of a text, and how a reader finds some of them.

  `lines` cuts a text at its line feeds, so a text that starts with a one-line piece
  and a line feed has that piece for its first line (`lines_line_append`). `between?`
  looks for an opening line and gives the lines up to the next closing one, and
  `outside` gives all others; `unwrap?` takes a line without what it starts and ends
  with.
-/
import Mathlib.Data.List.Basic

namespace GoEnum.Text

/-! ### Cutting a text into lines -/

/-- Whether a text stays on one line. -/
def OneLine (s : String) : Prop :=
  '\n' ∉ s.toList

instance : DecidablePred OneLine := fun s => inferInstanceAs (Decidable ('\n' ∉ s.toList))

/-- The lines of a text: what stands between its line feeds. -/
def lines (text : String) : List String :=
  (text.toList.splitOn '\n').map String.ofList

@[simp] theorem oneLine_append (s t : String) : OneLine (s ++ t) ↔ OneLine s ∧ OneLine t := by
  simp only [OneLine, String.toList_append, List.mem_append, not_or]

/-- A one-line text and a line feed at the start of a text make its first line. -/
theorem lines_line_append {s : String} (h : OneLine s) (t : String) :
    lines (s ++ "\n" ++ t) = s :: lines t := by
  have hcut : (s.toList ++ '\n' :: t.toList).splitOn '\n' =
      s.toList :: t.toList.splitOn '\n' :=
    List.splitOn_append_cons_self_of_not_mem h _
  rw [lines, String.append_assoc, String.toList_append, String.toList_append]
  rw [show "\n".toList = ['\n'] from rfl, List.singleton_append, hcut]
  simp [lines]

/-- The first line of a text that starts with a one-line text and a line feed. -/
theorem head?_lines {s t : String} (h : OneLine s) :
    (lines (s ++ "\n" ++ t)).head? = some s := by
  rw [lines_line_append h, List.head?_cons]

/-- No piece of a list that was cut at an element has that element in it. -/
theorem not_mem_of_mem_splitOn {α : Type} [DecidableEq α] {c : α} {cs piece : List α}
    (h : piece ∈ cs.splitOn c) : c ∉ piece := by
  induction cs generalizing piece with
  | nil => simp_all
  | cons d cs ih =>
    rw [List.splitOn_cons_eq_if_modifyHead] at h
    by_cases hd : d == c
    · rw [if_pos hd] at h
      rcases List.mem_cons.mp h with rfl | h
      · exact List.not_mem_nil
      · exact ih h
    · rw [if_neg hd] at h
      cases hcut : cs.splitOn c with
      | nil => simp [hcut] at h
      | cons first rest =>
        rw [hcut, List.modifyHead_cons] at h
        rcases List.mem_cons.mp h with rfl | h
        · have hfirst : c ∉ first := ih (by simp [hcut])
          have hne : c ≠ d := fun heq => hd (beq_iff_eq.mpr heq.symm)
          exact List.not_mem_cons_of_ne_of_not_mem hne hfirst
        · exact ih (by simp [hcut, h])

theorem oneLine_of_mem_lines {l text : String} (h : l ∈ lines text) : OneLine l := by
  obtain ⟨piece, hpiece, rfl⟩ := List.mem_map.mp h
  rw [OneLine, String.toList_ofList]
  exact not_mem_of_mem_splitOn hpiece

/-! ### Finding lines -/

/-- The lines strictly between the first line `opening` and the next line `closing`, if there are
both. -/
def between? (opening closing : String) (ls : List String) : Option (List String) :=
  match ls.dropWhile (· != opening) with
  | [] => none
  | _ :: rest => if closing ∈ rest then some (rest.takeWhile (· != closing)) else none

theorem forall_bne_of_not_mem {s : String} {ls : List String} (h : s ∉ ls) :
    ∀ l ∈ ls, (l != s) = true := by
  intro l hl
  exact bne_iff_ne.mpr fun heq => h (heq ▸ hl)

theorem between?_eq_some {opening closing : String} {before body : List String}
    (hopen : opening ∉ before) (hclose : closing ∉ body) (after : List String) :
    between? opening closing (before ++ opening :: (body ++ closing :: after)) = some body := by
  rw [between?, List.dropWhile_append_of_pos (forall_bne_of_not_mem hopen),
    List.dropWhile_cons_of_neg (by simp)]
  simp only [List.mem_append, List.mem_cons, true_or, or_true, if_true]
  rw [List.takeWhile_append_of_pos (forall_bne_of_not_mem hclose),
    List.takeWhile_cons_of_neg (by simp), List.append_nil]

/-- What begins with the opening line goes on to the first closing one. -/
theorem between?_cons {opening closing : String} {body : List String} (hclose : closing ∉ body)
    (after : List String) :
    between? opening closing (opening :: (body ++ closing :: after)) = some body :=
  between?_eq_some List.not_mem_nil hclose after

/-- All lines but those strictly between the first line `opening` and the next line `closing`. -/
def outside (opening closing : String) (ls : List String) : List String :=
  ls.takeWhile (· != opening) ++
    match ls.dropWhile (· != opening) with
    | [] => []
    | first :: rest => first :: rest.dropWhile (· != closing)

theorem outside_eq {opening closing : String} {before body : List String}
    (hopen : opening ∉ before) (hclose : closing ∉ body) (after : List String) :
    outside opening closing (before ++ opening :: (body ++ closing :: after)) =
      before ++ opening :: closing :: after := by
  have hrest : (body ++ closing :: after).dropWhile (· != closing) = closing :: after := by
    rw [List.dropWhile_append_of_pos (forall_bne_of_not_mem hclose),
      List.dropWhile_cons_of_neg (by simp)]
  rw [outside, List.takeWhile_append_of_pos (forall_bne_of_not_mem hopen),
    List.dropWhile_append_of_pos (forall_bne_of_not_mem hopen),
    List.takeWhile_cons_of_neg (by simp), List.dropWhile_cons_of_neg (by simp), List.append_nil]
  simp only [hrest]

/-! ### Reading a line -/

/-- Whether a character stands between words. -/
def separatesWords (c : Char) : Bool :=
  c == ' ' || c == '\t'

/-- A text without `opening` at its start. -/
def stripStart? (opening s : String) : Option String :=
  (opening.toList.isPrefixOf? s.toList).map String.ofList

/-- A text without `opening` at its start and `closing` at its end. -/
def unwrap? (opening closing s : String) : Option String := do
  let rest ← opening.toList.isPrefixOf? s.toList
  let content ← closing.toList.isSuffixOf? rest
  return String.ofList content

@[simp] theorem stripStart?_append (opening s : String) :
    stripStart? opening (opening ++ s) = some s := by
  have hrest : opening.toList.isPrefixOf? (opening ++ s).toList = some s.toList :=
    List.isPrefixOf?_eq_some_iff_append_eq.mpr String.toList_append.symm
  rw [stripStart?, hrest, Option.map_some, String.ofList_toList]

theorem unwrap?_append (opening s closing : String) :
    unwrap? opening closing (opening ++ s ++ closing) = some s := by
  have hrest : opening.toList.isPrefixOf? (opening ++ s ++ closing).toList =
      some (s.toList ++ closing.toList) :=
    List.isPrefixOf?_eq_some_iff_append_eq.mpr (by simp)
  have hcontent : closing.toList.isSuffixOf? (s.toList ++ closing.toList) = some s.toList :=
    List.isSuffixOf?_eq_some_iff_append_eq.mpr rfl
  simp only [unwrap?, hrest, Option.bind_eq_bind, Option.bind_some, hcontent,
    String.ofList_toList, Option.pure_def]

/-- What reads back each item reads back the list of them. -/
theorem mapM_map_eq_some {α β γ : Type} {write : α → β} {read : β → Option γ} {g : α → γ}
    {items : List α} (h : ∀ item ∈ items, read (write item) = some (g item)) :
    (items.map write).mapM read = some (items.map g) := by
  induction items with
  | nil => rfl
  | cons item items ih =>
    obtain ⟨hitem, hitems⟩ := List.forall_mem_cons.mp h
    rw [List.map_cons, List.mapM_cons, hitem, ih hitems]
    rfl

/-- If all items are read, each of them is. -/
theorem exists_of_mapM_eq_some {α β : Type} {read : α → Option β} {items : List α} :
    ∀ {found : List β}, items.mapM read = some found →
      ∀ item ∈ items, ∃ b, read item = some b := by
  induction items with
  | nil => intro found _ item hitem; exact absurd hitem List.not_mem_nil
  | cons first items ih =>
    intro found h item hitem
    rw [List.mapM_cons] at h
    obtain ⟨b, hb, h⟩ := Option.bind_eq_some_iff.mp h
    obtain ⟨bs, hbs, -⟩ := Option.bind_eq_some_iff.mp h
    rcases List.mem_cons.mp hitem with rfl | hitem
    · exact ⟨b, hb⟩
    · exact ih hbs item hitem

end GoEnum.Text

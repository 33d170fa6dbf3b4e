/-
  Values of any shape are skipped.

  A value is skipped if the reader, which keeps the brackets that are open, finds its way
  through the value and then does what it would do from the end of the value on
  (`IsSkipped`). The brackets that a value opens are closed within it, so this follows by
  induction on the value (`IsValue.isSkipped`), with the items between two brackets taken
  one after the other (`finishes_items`).
-/
import GoEnum.Json.Skip
import GoEnum.Proofs.Json.Number
import GoEnum.Proofs.Json.Text

namespace GoEnum.Json

variable {c : Char} {cs text value more rest spaces tail : List Char} {type : ValueType}
  {b : Bracket} {outer : List Bracket} {fuel : Nat}

/-! ### First characters -/

/-- Whether a character starts values of a type. -/
def Opens : ValueType → Char → Prop
  | .null, c => c = 'n'
  | .boolean, c => c = 't' ∨ c = 'f'
  | .number, c => c = '-' ∨ c.isDigit = true
  | .string, c => c = '"'
  | .array, c => c = '['
  | .object, c => c = '\x7b'

theorem IsUnsignedNumber.exists_cons (h : IsUnsignedNumber cs) :
    ∃ d ds, cs = d :: ds ∧ d.isDigit = true := by
  obtain ⟨whole, fraction, exponent, rfl | ⟨⟨hne, hall⟩, -⟩, -, -, rfl⟩ := h
  · exact ⟨'0', _, rfl, by decide⟩
  · obtain ⟨d, ds, rfl⟩ := List.exists_cons_of_ne_nil hne
    exact ⟨d, _, rfl, hall d List.mem_cons_self⟩

theorem IsValue.exists_cons (h : IsValue type cs) : ∃ c rest, cs = c :: rest ∧ Opens type c := by
  cases h with
  | null => exact ⟨_, _, rfl, rfl⟩
  | boolean b => cases b <;> exact ⟨_, _, rfl, by simp [Opens]⟩
  | number h =>
    rcases h with h | ⟨unsigned, -, rfl⟩
    · obtain ⟨d, ds, rfl, hd⟩ := h.exists_cons
      exact ⟨d, ds, rfl, Or.inr hd⟩
    · exact ⟨_, _, rfl, Or.inl rfl⟩
  | string h =>
    obtain ⟨body, rfl⟩ := h.exists_cons
    exact ⟨_, _, rfl, rfl⟩
  | array => exact ⟨_, _, rfl, rfl⟩
  | object => exact ⟨_, _, rfl, rfl⟩

/-- The decimal digits. -/
def digitChars : List Char :=
  ['0', '1', '2', '3', '4', '5', '6', '7', '8', '9']

theorem mem_digitChars (h : c.isDigit = true) : c ∈ digitChars := by
  have hdigits : ∀ n < 58, 48 ≤ n → Char.ofNat n ∈ digitChars := by decide
  simp only [Char.isDigit, Bool.and_eq_true, decide_eq_true_eq, UInt32.le_iff_toNat_le] at h
  rw [← Char.ofNat_toNat c]
  exact hdigits c.toNat (Nat.lt_succ_of_le h.2) h.1

theorem digitChars_spec : ∀ c ∈ digitChars,
    StartsToken c ∧ (∀ b : Bracket, c ≠ b.closing) ∧
      skipLeaf c = (do skipNumber; return none) := by
  intro c hc
  simp only [digitChars, List.mem_cons, List.not_mem_nil, or_false] at hc
  rcases hc with rfl | rfl | rfl | rfl | rfl | rfl | rfl | rfl | rfl | rfl <;>
    exact ⟨by decide, fun b => by cases b <;> decide, rfl⟩

/-- The first character of a value starts a token and closes no bracket. -/
theorem Opens.startsToken (h : Opens type c) : StartsToken c ∧ ∀ b : Bracket, c ≠ b.closing := by
  cases type with
  | number =>
    rcases h with rfl | h
    · exact ⟨by decide, fun b => by cases b <;> decide⟩
    · obtain ⟨htoken, hclosing, -⟩ := digitChars_spec c (mem_digitChars h)
      exact ⟨htoken, hclosing⟩
  | boolean => rcases h with rfl | rfl <;> exact ⟨by decide, fun b => by cases b <;> decide⟩
  | _ =>
    obtain rfl := h
    exact ⟨by decide, fun b => by cases b <;> decide⟩

/-- Only strings start with a quote. -/
theorem type_of_quote {body : List Char} (h : IsValue type ('"' :: body)) : type = .string := by
  obtain ⟨c, rest, heq, hopens⟩ := h.exists_cons
  obtain ⟨rfl, rfl⟩ := List.cons.inj heq
  cases type <;> simp +decide [Opens] at hopens ⊢

/-- Only Booleans start with the first letter of one of their words. -/
theorem type_of_letter (h : IsValue type (c :: text)) (hc : c = 't' ∨ c = 'f') :
    type = .boolean := by
  obtain ⟨d, rest, heq, hopens⟩ := h.exists_cons
  obtain ⟨rfl, rfl⟩ := List.cons.inj heq
  rcases hc with rfl | rfl <;> cases type <;> simp +decide [Opens] at hopens ⊢

theorem IsValue.isString (h : IsValue .string text) : IsString text := by
  cases h with
  | string h => exact h

theorem IsValue.exists_boolWord (h : IsValue .boolean text) : ∃ flag, text = boolWord flag := by
  cases h with
  | boolean flag => exact ⟨flag, rfl⟩

/-! ### Values without brackets -/

/-- A value that is no list and no object is taken at once. -/
theorem takes_skipLeaf (h : IsValue type (c :: cs)) (harray : type ≠ .array)
    (hobject : type ≠ .object) (hmore : IsDelimited more) :
    Takes (skipLeaf c) (c :: (cs ++ more)) none more := by
  generalize htext : c :: cs = text at h
  cases h with
  | null =>
    obtain ⟨rfl, rfl⟩ := List.cons.inj htext
    exact (takes_discard (by decide) _).bind
      ((takes_takeIdent (by decide) more).bind (takes_pure _ _))
  | boolean b =>
    cases b <;>
    · obtain ⟨rfl, rfl⟩ := List.cons.inj htext
      exact (takes_discard (by decide) _).bind
        ((takes_takeIdent (by decide) more).bind (takes_pure _ _))
  | number h =>
    subst htext
    rcases h with h | ⟨unsigned, h, htext⟩
    · obtain ⟨d, ds, hds, hd⟩ := h.exists_cons
      obtain ⟨rfl, rfl⟩ := List.cons.inj hds
      rw [(digitChars_spec c (mem_digitChars hd)).2.2]
      exact (takes_skipNumber h hmore).bind (takes_pure _ _)
    · obtain ⟨rfl, rfl⟩ := List.cons.inj htext
      exact (takes_discard (by decide) _).bind ((takes_skipNumber h hmore).bind (takes_pure _ _))
  | string h =>
    subst htext
    obtain ⟨body, hbody⟩ := h.exists_cons
    obtain ⟨rfl, rfl⟩ := List.cons.inj hbody
    exact (takes_discard (by decide) _).bind ((takes_skipString h more).bind (takes_pure _ _))
  | array => exact absurd rfl harray
  | object => exact absurd rfl hobject

/-! ### Brackets -/

/-- What is read when an item must follow in the innermost of some brackets. -/
def resume (fuel : Nat) : List Bracket → Scan Unit
  | [] => return ()
  | .list :: outer => skipValueIn fuel (.list :: outer)
  | .object :: outer => do
    skipKey
    skipValueIn fuel (.object :: outer)

/-- What is read in some brackets, after an item or at the start of the innermost one. -/
def goOn (fuel : Nat) (afterItem : Bool) (brackets : List Bracket) : Scan Unit :=
  closeBrackets afterItem brackets >>= resume fuel

/-- A bracket that is closed is left. -/
theorem leads_goOn_close (fuel : Nat) (afterItem : Bool) (b : Bracket) (outer : List Bracket)
    (more : List Char) :
    Leads (goOn fuel afterItem (b :: outer)) (b.closing :: more) (goOn fuel true outer) more := by
  have htoken : StartsToken b.closing := by cases b <;> decide
  have hcomma : (afterItem && b.closing == ',') = false := by cases b <;> simp [Bracket.closing]
  refine Leads.bind ((leads_token htoken more _).trans ?_) _
  simp only [hcomma, Bool.false_eq_true, ↓reduceIte]
  exact (takes_discard htoken.1 more).goesOn _

/-- After an item, a comma asks for another one. -/
theorem leads_goOn_comma (fuel : Nat) (b : Bracket) (outer : List Bracket) (more : List Char) :
    Leads (goOn fuel true (b :: outer)) (',' :: more) (resume fuel (b :: outer)) more := by
  have hcomma : Takes (closeBrackets true (b :: outer)) (',' :: more) (b :: outer) more :=
    (leads_token (by decide) more _).takes ((takes_discard (by decide) more).bind (takes_pure _ _))
  exact hcomma.goesOn _

/-- At the start of a bracket, a token that does not close it starts an item. -/
theorem leads_goOn_first (fuel : Nat) (outer : List Bracket) (htoken : StartsToken c)
    (hclosing : c ≠ b.closing) (text : List Char) :
    Leads (goOn fuel false (b :: outer)) (c :: text) (resume fuel (b :: outer)) (c :: text) := by
  have hfirst : Takes (closeBrackets false (b :: outer)) (c :: text) (b :: outer) (c :: text) := by
    refine (leads_token htoken text _).takes ?_
    simp only [Bool.false_and, Bool.false_eq_true, ↓reduceIte, if_neg hclosing]
    exact takes_pure _ _
  exact hfirst.goesOn _

theorem leads_goOn_spaces (fuel : Nat) (afterItem : Bool) (b : Bracket) (outer : List Bracket)
    (hspaces : IsSpaces spaces) (text : List Char) :
    Leads (goOn fuel afterItem (b :: outer)) (spaces ++ text) (goOn fuel afterItem (b :: outer))
      text :=
  Leads.bind (leads_spaces hspaces text _) _

theorem leads_resume_spaces (fuel : Nat) (b : Bracket) (outer : List Bracket)
    (hspaces : IsSpaces spaces) (text : List Char) :
    Leads (resume (fuel + 1) (b :: outer)) (spaces ++ text) (resume (fuel + 1) (b :: outer))
      text := by
  cases b with
  | list => exact leads_spaces hspaces text _
  | object => exact Leads.bind (leads_spaces hspaces text _) _

/-! ### Values and items -/

/-- Whether what follows an item is read up to the end of the brackets around the item. -/
def Finishes (outer : List Bracket) (text rest : List Char) : Prop :=
  ∀ fuel, (bytesOf text).length < fuel → Takes (goOn fuel true outer) text () rest

/-- Whether a value is skipped, whatever brackets it stands in. -/
def IsSkipped (value : List Char) : Prop :=
  ∀ outer more rest, IsDelimited more → Finishes outer more rest →
    ∀ fuel, (bytesOf (value ++ more)).length < fuel →
      Takes (skipValueIn fuel outer) (value ++ more) () rest

/-- Whether characters are an item that is skipped in a bracket. -/
structure IsItem (b : Bracket) (item : List Char) : Prop where
  /-- Its first character does not close the bracket. -/
  head : ∃ c cs, item = c :: cs ∧ StartsToken c ∧ c ≠ b.closing
  /-- What is read of the item comes to what is read after it. -/
  skipped : ∀ outer more rest, IsDelimited more → Finishes (b :: outer) more rest →
    ∀ fuel, (bytesOf (item ++ more)).length < fuel →
      Takes (resume fuel (b :: outer)) (item ++ more) () rest

theorem Finishes.after_spaces (h : Finishes (b :: outer) text rest) (hspaces : IsSpaces spaces) :
    Finishes (b :: outer) (spaces ++ text) rest := by
  intro fuel hfuel
  rw [length_bytesOf_append] at hfuel
  exact (leads_goOn_spaces fuel true b outer hspaces text).takes (h fuel (by omega))

theorem isDelimited_spaces (hspaces : IsSpaces spaces) (htext : IsDelimited text) :
    IsDelimited (spaces ++ text) := by
  cases spaces with
  | nil => exact htext
  | cons c spaces =>
    rintro d ⟨⟩
    rcases hspaces c List.mem_cons_self with rfl | rfl | rfl | rfl <;> decide

theorem isDelimited_closing (b : Bracket) (more : List Char) : IsDelimited (b.closing :: more) := by
  rintro d ⟨⟩
  cases b <;> decide

theorem isDelimited_comma (more : List Char) : IsDelimited (',' :: more) := by
  rintro d ⟨⟩
  decide

/-- An item is read with the white space before it. -/
theorem takes_resume_item {item : List Char} (hspaces : IsSpaces spaces) (hitem : IsItem b item)
    (hdelimited : IsDelimited more) (hmore : Finishes (b :: outer) more rest) :
    ∀ fuel, (bytesOf (spaces ++ (item ++ more))).length < fuel →
      Takes (resume fuel (b :: outer)) (spaces ++ (item ++ more)) () rest := by
  intro fuel hfuel
  obtain ⟨fuel, rfl⟩ := Nat.exists_eq_add_one.mpr (Nat.zero_lt_of_lt hfuel)
  rw [length_bytesOf_append] at hfuel
  exact (leads_resume_spaces fuel b outer hspaces _).takes
    (hitem.skipped outer more rest hdelimited hmore (fuel + 1) (by omega))

section

variable {ι : Type} {before item : ι → List Char} {items : List ι}

/-- What follows an item and starts with a comma or the closing bracket ends values. -/
theorem isDelimited_items (items : List ι) (more : List Char) :
    IsDelimited (items.flatMap (fun i => ',' :: (before i ++ item i)) ++ b.closing :: more) := by
  cases items with
  | nil => exact isDelimited_closing b more
  | cons i items => exact isDelimited_comma _

/-- Items with commas before them, and the closing bracket, are read up to the end of the outer
brackets. -/
theorem finishes_items (hspaces : ∀ i ∈ items, IsSpaces (before i))
    (hitems : ∀ i ∈ items, IsItem b (item i)) (hmore : Finishes outer more rest) :
    Finishes (b :: outer)
      (items.flatMap (fun i => ',' :: (before i ++ item i)) ++ b.closing :: more) rest := by
  induction items with
  | nil =>
    -- Only the closing bracket is left; what follows it belongs to the outer brackets.
    intro fuel hfuel
    have hlt := length_bytesOf_lt b.closing more
    exact (leads_goOn_close fuel true b outer more).takes (hmore fuel (Nat.lt_trans hlt hfuel))
  | cons i items ih =>
    intro fuel hfuel
    obtain ⟨hspace, hspaces⟩ := List.forall_mem_cons.mp hspaces
    obtain ⟨hitem, hitems⟩ := List.forall_mem_cons.mp hitems
    rw [List.flatMap_cons, List.cons_append, List.cons_append, List.append_assoc,
      List.append_assoc] at hfuel ⊢
    refine (leads_goOn_comma fuel b outer _).takes ?_
    exact takes_resume_item hspace hitem (isDelimited_items items more) (ih hspaces hitems) fuel
      (Nat.lt_trans (length_bytesOf_lt _ _) hfuel)

/-- The items of a bracket, and the closing bracket, are read up to the end of the outer
brackets. -/
theorem takes_inside {inside : List Char} (hspaces : ∀ i ∈ items, IsSpaces (before i))
    (hitems : ∀ i ∈ items, IsItem b (item i))
    (hinside : IsInside (items.map fun i => before i ++ item i) inside)
    (hmore : Finishes outer more rest)
    (hfuel : (bytesOf (inside ++ b.closing :: more)).length < fuel) :
    Takes (goOn fuel false (b :: outer)) (inside ++ b.closing :: more) () rest := by
  cases items with
  | nil =>
    refine (leads_goOn_spaces fuel false b outer hinside _).takes
      ((leads_goOn_close fuel false b outer more).takes (hmore fuel ?_))
    rw [length_bytesOf_append] at hfuel
    have hlt := length_bytesOf_lt b.closing more
    omega
  | cons i items =>
    obtain ⟨hspace, hspaces⟩ := List.forall_mem_cons.mp hspaces
    obtain ⟨hitem, hitems⟩ := List.forall_mem_cons.mp hitems
    obtain rfl : inside = before i ++ item i ++
        (items.map fun i => before i ++ item i).flatMap (',' :: ·) := hinside
    have hrest := finishes_items hspaces hitems hmore
    rw [List.flatMap_map, List.append_assoc, List.append_assoc] at hfuel ⊢
    refine (leads_goOn_spaces fuel false b outer hspace _).takes ?_
    rw [length_bytesOf_append] at hfuel
    have htakes := hitem.skipped outer _ rest (isDelimited_items items more) hrest fuel (by omega)
    obtain ⟨c, cs, hcs, htoken, hclosing⟩ := hitem.head
    rw [hcs, List.cons_append] at htakes ⊢
    exact (leads_goOn_first fuel outer htoken hclosing _).takes htakes

end

/-! ### Elements and members -/

/-- The characters of an element without the white space before it. -/
def Element.item (e : Element) : List Char :=
  e.text ++ e.after

/-- The characters of a member without the white space before it. -/
def Member.item (m : Member) : List Char :=
  m.key ++ (m.after ++ ':' :: m.value.spelling)

theorem Element.isItem {e : Element} (hspaced : e.IsSpaced) (hvalue : IsValue e.type e.text)
    (hskipped : IsSkipped e.text) : IsItem .list e.item := by
  constructor
  · obtain ⟨c, cs, htext, hopens⟩ := hvalue.exists_cons
    obtain ⟨htoken, hclosing⟩ := hopens.startsToken
    exact ⟨c, cs ++ e.after, by rw [Element.item, htext, List.cons_append], htoken, hclosing _⟩
  · intro outer more rest hdelimited hmore fuel hfuel
    rw [Element.item, List.append_assoc] at hfuel ⊢
    exact hskipped _ _ rest (isDelimited_spaces hspaced.after hdelimited)
      (hmore.after_spaces hspaced.after) fuel hfuel

theorem takes_skipKey {key after : List Char} (hkey : IsString key) (hafter : IsSpaces after)
    (rest : List Char) : Takes skipKey (key ++ (after ++ ':' :: rest)) () rest := by
  obtain ⟨body, rfl⟩ := hkey.exists_cons
  refine (leads_token (by decide) _ _).takes ((takes_discard (by decide) _).bind
    ((takes_skipString hkey _).bind ?_))
  exact (leads_spacedToken hafter (by decide) _ _).takes (takes_discard (by decide) rest)

theorem Member.isItem {m : Member} (hkeyed : m.IsKeyed) (hskipped : IsSkipped m.value.text) :
    IsItem .object m.item := by
  constructor
  · obtain ⟨body, hkey⟩ := hkeyed.key.exists_cons
    exact ⟨'"', _, by rw [Member.item, hkey, List.cons_append], by decide, by decide⟩
  · intro outer more rest hdelimited hmore fuel hfuel
    obtain ⟨fuel, rfl⟩ := Nat.exists_eq_add_one.mpr (Nat.zero_lt_of_lt hfuel)
    rw [Member.item, List.append_assoc, List.append_assoc, List.cons_append, Element.spelling,
      List.append_assoc, List.append_assoc] at hfuel ⊢
    refine (takes_skipKey hkeyed.key hkeyed.after _).bind ?_
    refine (leads_spaces hkeyed.value.before _ _).takes ?_
    refine hskipped _ _ rest (isDelimited_spaces hkeyed.value.after hdelimited)
      (hmore.after_spaces hkeyed.value.after) (fuel + 1) ?_
    have hlt := length_bytesOf_lt ':'
      (m.value.before ++ (m.value.text ++ (m.value.after ++ more)))
    simp only [length_bytesOf_append] at hfuel hlt ⊢
    omega

/-! ### Values -/

theorem isSkipped_leaf (h : IsValue type value) (harray : type ≠ .array)
    (hobject : type ≠ .object) : IsSkipped value := by
  intro outer more rest hdelimited hmore fuel hfuel
  obtain ⟨c, cs, rfl, hopens⟩ := h.exists_cons
  obtain ⟨fuel, rfl⟩ := Nat.exists_eq_add_one.mpr (Nat.zero_lt_of_lt hfuel)
  refine (leads_token hopens.startsToken.1 _ _).takes
    ((takes_skipLeaf h harray hobject hdelimited).bind (hmore fuel ?_))
  have hlt := length_bytesOf_lt c (cs ++ more)
  rw [List.cons_append] at hfuel
  rw [length_bytesOf_append] at hlt
  omega

/-- The character that opens a bracket. -/
def Bracket.opening : Bracket → Char
  | .list => '['
  | .object => '\x7b'

theorem isSkipped_brackets {ι : Type} {before item : ι → List Char} {items : List ι}
    {inside : List Char} (b : Bracket) (hspaces : ∀ i ∈ items, IsSpaces (before i))
    (hitems : ∀ i ∈ items, IsItem b (item i))
    (hinside : IsInside (items.map fun i => before i ++ item i) inside) :
    IsSkipped (b.opening :: inside ++ [b.closing]) := by
  intro outer more rest _ hmore fuel hfuel
  obtain ⟨fuel, rfl⟩ := Nat.exists_eq_add_one.mpr (Nat.zero_lt_of_lt hfuel)
  rw [List.append_assoc, List.cons_append, List.singleton_append] at hfuel ⊢
  have htoken : StartsToken b.opening := by cases b <;> decide
  have hopened : Takes (skipLeaf b.opening) (b.opening :: (inside ++ b.closing :: more)) (some b)
      (inside ++ b.closing :: more) := by
    cases b <;> exact (takes_discard (by decide) _).bind (takes_pure _ _)
  have hlt := length_bytesOf_lt b.opening (inside ++ b.closing :: more)
  exact (leads_token htoken _ _).takes
    (hopened.bind (takes_inside hspaces hitems hinside hmore (by omega)))

/-- Every value is skipped. -/
theorem IsValue.isSkipped (h : IsValue type value) : IsSkipped value := by
  induction h with
  | null => exact isSkipped_leaf .null (by decide) (by decide)
  | boolean b => exact isSkipped_leaf (.boolean b) (by decide) (by decide)
  | number h => exact isSkipped_leaf (.number h) (by decide) (by decide)
  | string h => exact isSkipped_leaf (.string h) (by decide) (by decide)
  | array elements hspaced hvalues hinside ih =>
    exact isSkipped_brackets .list (fun e he => (hspaced e he).before)
      (fun e he => Element.isItem (hspaced e he) (hvalues e he) (ih e he)) hinside
  | object members hkeyed hvalues hinside ih =>
    exact isSkipped_brackets .object (fun m hm => (hkeyed m hm).before)
      (fun m hm => Member.isItem (hkeyed m hm) (ih m hm)) hinside

/-- A value is skipped with the white space before it, and nothing after it is. -/
theorem takes_skipValue (hspaces : IsSpaces spaces) (h : IsValue type value)
    (hmore : IsDelimited more) : Takes skipValue (spaces ++ (value ++ more)) () more := by
  refine (leads_sized (fun fuel => skipValueIn fuel []) _).takes
    ((leads_spaces hspaces _ _).takes ?_)
  refine h.isSkipped [] more more hmore (fun fuel _ => takes_pure _ _)
    ((bytesOf (spaces ++ (value ++ more))).length + 1) ?_
  rw [length_bytesOf_append spaces]
  omega

end GoEnum.Json

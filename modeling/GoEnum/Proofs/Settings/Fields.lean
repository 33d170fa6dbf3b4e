/-
  The fields of the settings, as they are read.

  The members of an object give fields in the ways that `MembersGive` lists, and are then
  read for what they give; else they are refused (`members_cases`). White space and spelling
  play no role in this, nor does what members with other keys hold. The elements of a list
  that give fields (`ElementsGive`) are read for them too.
-/
import GoEnum.Proofs.Json.Skip
import GoEnum.Settings

namespace GoEnum.Settings

open Json

variable {c : Char} {text more rest spaces left : List Char} {type : ValueType} {key : String}
  {found : Found}

/-! ### Values -/

theorem refuses_wrongType {α : Type} (c : Char) (expected : String) (text : List Char) :
    Refuses (wrongType c expected : Scan α) text :=
  refuses_bind_fail _ _ _

theorem takes_takeColon (hspaces : IsSpaces spaces) (rest : List Char) :
    Takes takeColon (spaces ++ ':' :: rest) () rest :=
  (leads_spacedToken hspaces (by decide) _ _).takes (takes_discard (by decide) rest)

theorem takes_readStringValue {s : String} (hspaces : IsSpaces spaces) (h : SpellsString s text)
    (more : List Char) : Takes readStringValue (spaces ++ (text ++ more)) s more := by
  obtain ⟨body, rfl⟩ := h.isString.exists_cons
  exact (leads_spacedToken hspaces (by decide) _ _).takes
    ((takes_discard (by decide) _).bind (takes_readString h more))

/-- A value is read as a text if it spells one, and otherwise refused. -/
theorem readStringValue_cases (hspaces : IsSpaces spaces) (h : IsValue type text)
    (more : List Char) :
    (∃ s, SpellsString s text) ∨ Refuses readStringValue (spaces ++ (text ++ more)) := by
  obtain ⟨c, cs, rfl, hopens⟩ := h.exists_cons
  have hleads := leads_spacedToken (α := String) hspaces hopens.startsToken.1 (cs ++ more)
  by_cases hquote : c = '"'
  · subst hquote
    obtain rfl := type_of_quote h
    refine (spells_or_refuses h.isString more).imp_right fun hrefuses => ?_
    exact (hleads _).refuses (((takes_discard (by decide) _).goesOn _).refuses hrefuses)
  · right
    refine (hleads _).refuses ?_
    split
    · contradiction
    · rename_i heq
      exact absurd (Option.some.inj heq) hquote
    · exact refuses_wrongType _ _ _

/-- The word of a Boolean is read as it. -/
theorem takes_readBoolValue (hspaces : IsSpaces spaces) (flag : Bool) (more : List Char) :
    Takes readBoolValue (spaces ++ (boolWord flag ++ more)) flag more := by
  cases flag <;>
    exact (leads_spacedToken hspaces (by decide) _ _).takes ((takes_discard (by decide) _).bind
      ((takes_takeIdent (by decide) more).bind (takes_pure _ _)))

/-- A value is the word of a Boolean, or refused as one. -/
theorem readBoolValue_cases (hspaces : IsSpaces spaces) (h : IsValue type text)
    (more : List Char) :
    (∃ flag, text = boolWord flag) ∨ Refuses readBoolValue (spaces ++ (text ++ more)) := by
  obtain ⟨c, cs, rfl, hopens⟩ := h.exists_cons
  by_cases hword : c = 't' ∨ c = 'f'
  · obtain rfl := type_of_letter h hword
    exact Or.inl h.exists_boolWord
  · right
    refine (leads_spacedToken hspaces hopens.startsToken.1 (cs ++ more) _).refuses ?_
    split
    · contradiction
    · rename_i heq
      exact absurd (Or.inl (Option.some.inj heq)) hword
    · rename_i heq
      exact absurd (Or.inr (Option.some.inj heq)) hword
    · exact refuses_wrongType _ _ _

/-! ### Members -/

/-- Whether members give a name and a flag, or one of them or none, each once: they are the
members with the known keys, and there may be members with other keys anywhere among them. -/
inductive MembersGive : Option String → Option Bool → List Member → Prop
  | nil : MembersGive none none []
  | programName {name : String} {flag : Option Bool} {m : Member} {members : List Member}
    (hkey : SpellsString "app_name" m.key) (hvalue : SpellsString name m.value.text)
    (hmembers : MembersGive none flag members) : MembersGive (some name) flag (m :: members)
  | acceptEmpty {name : Option String} {flag : Bool} {m : Member} {members : List Member}
    (hkey : SpellsString "allow_empty" m.key) (hvalue : m.value.text = boolWord flag)
    (hmembers : MembersGive name none members) : MembersGive name (some flag) (m :: members)
  | other {name : Option String} {flag : Option Bool} {key : String} {m : Member}
    {members : List Member} (hkey : SpellsString key m.key) (hname : key ≠ "app_name")
    (hflag : key ≠ "allow_empty") (hmembers : MembersGive name flag members) :
    MembersGive name flag (m :: members)

section

variable {m : Member} {name : String} {flag : Option Bool}

theorem takes_readField_programName (hm : m.IsKeyed) (hvalue : SpellsString name m.value.text)
    (flag : Option Bool) (left : List Char) :
    Takes (readField ⟨none, flag⟩ programNameKey) (m.after ++ ':' :: (m.value.spelling ++ left))
      ⟨some name, flag⟩ (m.value.after ++ left) := by
  rw [Element.spelling, List.append_assoc, List.append_assoc]
  exact (takes_takeColon hm.after _).bind
    ((takes_readStringValue hm.value.before hvalue _).bind (takes_pure _ _))

theorem takes_readField_acceptEmpty {flag : Bool} (hm : m.IsKeyed)
    (hvalue : m.value.text = boolWord flag) (name : Option String) (left : List Char) :
    Takes (readField ⟨name, none⟩ acceptEmptyKey) (m.after ++ ':' :: (m.value.spelling ++ left))
      ⟨name, some flag⟩ (m.value.after ++ left) := by
  rw [Element.spelling, List.append_assoc, List.append_assoc, hvalue]
  exact (takes_takeColon hm.after _).bind
    ((takes_readBoolValue hm.value.before flag _).bind (takes_pure _ _))

theorem takes_readField_other (hm : m.IsKeyed) (hvalue : IsValue m.value.type m.value.text)
    (hname : key ≠ programNameKey) (hflag : key ≠ acceptEmptyKey) (found : Found)
    (hleft : IsDelimited left) :
    Takes (readField found key) (m.after ++ ':' :: (m.value.spelling ++ left)) found
      (m.value.after ++ left) := by
  unfold readField
  rw [if_neg hname, if_neg hflag, Element.spelling, List.append_assoc, List.append_assoc]
  exact (takes_takeColon hm.after _).bind
    ((takes_skipValue hm.value.before hvalue (isDelimited_spaces hm.value.after hleft)).bind
      (takes_pure _ _))

/-- What comes before a member: a comma, unless it is the first one. -/
def separator (isFirst : Bool) : List Char :=
  if isFirst then [] else [',']

/-- Members with commas between them, and before them if they are not the first ones. -/
def membersText : Bool → List Member → List Char
  | _, [] => []
  | isFirst, m :: members => separator isFirst ++ (m.spelling ++ membersText false members)

theorem takes_openKey {before : List Char} (isFirst : Bool) (hspaces : IsSpaces spaces)
    (hbefore : IsSpaces before) (rest : List Char) :
    Takes (openKey isFirst) (spaces ++ (separator isFirst ++ (before ++ '"' :: rest))) true
      rest := by
  cases isFirst with
  | true =>
    refine (leads_spaces hspaces _ _).takes ((leads_spacedToken hbefore (by decide) _ _).takes ?_)
    exact (takes_discard (by decide) rest).bind (takes_pure _ _)
  | false =>
    refine (leads_spacedToken hspaces (by decide) _ _).takes ((takes_discard (by decide) _).bind ?_)
    exact (leads_spacedToken hbefore (by decide) _ _).takes
      ((takes_discard (by decide) rest).bind (takes_pure _ _))

theorem takes_openKey_end (isFirst : Bool) (hspaces : IsSpaces spaces) (rest : List Char) :
    Takes (openKey isFirst) (spaces ++ '\x7d' :: rest) false rest :=
  (leads_spacedToken hspaces (by decide) _ _).takes
    ((takes_discard (by decide) rest).bind (takes_pure _ _))

/-- What is read of a member after its opening quote, and of the members after it. -/
def readMember (fuel : Nat) (found : Found) : Scan Found := do
  let key ← readString
  let found ← readField found key
  readMembers fuel false found

/-- A member starts with its key. -/
theorem leads_readMembers {body : List Char} (fuel : Nat) (isFirst : Bool) (found : Found)
    (hspaces : IsSpaces spaces) (hm : m.IsKeyed) (hbody : m.key = '"' :: body) (left : List Char) :
    Leads (readMembers (fuel + 1) isFirst found)
      (spaces ++ (separator isFirst ++ (m.spelling ++ left))) (readMember fuel found)
      (body ++ (m.after ++ ':' :: (m.value.spelling ++ left))) := by
  rw [Member.spelling, hbody, List.append_assoc, List.append_assoc, List.append_assoc,
    List.cons_append, List.cons_append]
  exact (takes_openKey isFirst hspaces hm.before _).goesOn _

/-- A member with a text as its key is read as the field of that key. -/
theorem leads_readMember {body : List Char} (fuel : Nat) (found : Found)
    (hkey : SpellsString key ('"' :: body)) (text : List Char) :
    Leads (readMember fuel found) (body ++ text) (readField found key >>= readMembers fuel false)
      text :=
  (takes_readString hkey text).goesOn _

theorem takes_readMembers_end (fuel : Nat) (isFirst : Bool) (found : Found)
    (hspaces : IsSpaces spaces) (more : List Char) :
    Takes (readMembers (fuel + 1) isFirst found) (spaces ++ '\x7d' :: more) found more :=
  ((takes_openKey_end isFirst hspaces more).goesOn _).takes (takes_pure _ _)

end

variable {m : Member} {members : List Member} {name : Option String} {flag : Option Bool}

theorem isDelimited_membersText (members : List Member) (more : List Char) :
    IsDelimited (membersText false members ++ '\x7d' :: more) := by
  cases members with
  | nil => exact isDelimited_closing .object more
  | cons m members => exact isDelimited_comma _

theorem membersText_cons (isFirst : Bool) (m : Member) (members : List Member) (more : List Char) :
    spaces ++ (membersText isFirst (m :: members) ++ '\x7d' :: more) =
      spaces ++ (separator isFirst ++
        (m.spelling ++ (membersText false members ++ '\x7d' :: more))) := by
  rw [membersText, List.append_assoc, List.append_assoc]

/-- A member whose field is read is followed by the other members. -/
theorem leads_members {further : Found} (fuel : Nat) (isFirst : Bool) (hspaces : IsSpaces spaces)
    (hm : m.IsKeyed) (hkey : SpellsString key m.key) (members : List Member) (more : List Char)
    (hfield : Takes (readField found key)
      (m.after ++ ':' :: (m.value.spelling ++ (membersText false members ++ '\x7d' :: more)))
      further (m.value.after ++ (membersText false members ++ '\x7d' :: more))) :
    Leads (readMembers (fuel + 1) isFirst found)
      (spaces ++ (membersText isFirst (m :: members) ++ '\x7d' :: more))
      (readMembers fuel false further)
      (m.value.after ++ (membersText false members ++ '\x7d' :: more)) := by
  obtain ⟨body, hbody⟩ := hm.key.exists_cons
  rw [hbody] at hkey
  rw [membersText_cons]
  exact (leads_readMembers fuel isFirst found hspaces hm hbody _).trans
    ((leads_readMember fuel found hkey _).trans (hfield.goesOn _))

/-- Whether the rest of an object is read for some fields, when some were found before. -/
def ReadsMembers (isFirst : Bool) (found : Found) (text : List Char) (result : Found)
    (more : List Char) : Prop :=
  ∀ fuel, (bytesOf text).length < fuel → Takes (readMembers fuel isFirst found) text result more

theorem readsMembers_nil (isFirst : Bool) (found : Found) (hspaces : IsSpaces spaces)
    (more : List Char) :
    ReadsMembers isFirst found (spaces ++ (membersText isFirst [] ++ '\x7d' :: more)) found
      more := by
  intro fuel hfuel
  obtain ⟨fuel, rfl⟩ := Nat.exists_eq_add_one.mpr (Nat.zero_lt_of_lt hfuel)
  exact takes_readMembers_end fuel isFirst found hspaces more

theorem readsMembers_cons {further result : Found} (isFirst : Bool) (hspaces : IsSpaces spaces)
    (hm : m.IsKeyed) (hkey : SpellsString key m.key) (members : List Member) (more : List Char)
    (hfield : Takes (readField found key)
      (m.after ++ ':' :: (m.value.spelling ++ (membersText false members ++ '\x7d' :: more)))
      further (m.value.after ++ (membersText false members ++ '\x7d' :: more)))
    (hmembers : ReadsMembers false further
      (m.value.after ++ (membersText false members ++ '\x7d' :: more)) result more) :
    ReadsMembers isFirst found (spaces ++ (membersText isFirst (m :: members) ++ '\x7d' :: more))
      result more := by
  intro fuel hfuel
  obtain ⟨fuel, rfl⟩ := Nat.exists_eq_add_one.mpr (Nat.zero_lt_of_lt hfuel)
  refine (leads_members fuel isFirst hspaces hm hkey members more hfield).takes (hmembers fuel ?_)
  -- The quote of the key is a byte that is taken and not counted any more.
  obtain ⟨body, hbody⟩ := hm.key.exists_cons
  have hquote := length_bytesOf_lt '"' body
  have hcolon := length_bytesOf_lt ':' (m.value.before ++ (m.value.text ++ m.value.after))
  rw [membersText_cons, Member.spelling, hbody, Element.spelling] at hfuel
  simp only [length_bytesOf_append] at hfuel hcolon ⊢
  omega

/-- Members that give fields which were not found before are read for what they give. -/
theorem readsMembers_of_gives (hgives : MembersGive name flag members) (more : List Char)
    (hkeyed : ∀ m ∈ members, m.IsKeyed)
    (hvalues : ∀ m ∈ members, IsValue m.value.type m.value.text) :
    ∀ {isFirst spaces found}, IsSpaces spaces → (name.isSome → found.programName = none) →
      (flag.isSome → found.acceptEmpty = none) →
      ReadsMembers isFirst found (spaces ++ (membersText isFirst members ++ '\x7d' :: more))
        ⟨name.or found.programName, flag.or found.acceptEmpty⟩ more := by
  induction hgives with
  | nil =>
    intro isFirst spaces found hspaces _ _
    exact readsMembers_nil isFirst found hspaces more
  | @programName name flag m members hkey hvalue _ ih =>
    rintro isFirst spaces ⟨foundName, foundFlag⟩ hspaces hname hflag
    obtain ⟨hm, hkeyed⟩ := List.forall_mem_cons.mp hkeyed
    obtain ⟨-, hvalues⟩ := List.forall_mem_cons.mp hvalues
    obtain rfl : foundName = none := hname rfl
    exact readsMembers_cons isFirst hspaces hm hkey members more
      (takes_readField_programName hm hvalue foundFlag _)
      (ih hkeyed hvalues hm.value.after (by simp) hflag)
  | @acceptEmpty name flag m members hkey hvalue _ ih =>
    rintro isFirst spaces ⟨foundName, foundFlag⟩ hspaces hname hflag
    obtain ⟨hm, hkeyed⟩ := List.forall_mem_cons.mp hkeyed
    obtain ⟨-, hvalues⟩ := List.forall_mem_cons.mp hvalues
    obtain rfl : foundFlag = none := hflag rfl
    exact readsMembers_cons isFirst hspaces hm hkey members more
      (takes_readField_acceptEmpty hm hvalue foundName _)
      (ih hkeyed hvalues hm.value.after hname (by simp))
  | @other name flag key m members hkey hnotName hnotFlag _ ih =>
    intro isFirst spaces found hspaces hname hflag
    obtain ⟨hm, hkeyed⟩ := List.forall_mem_cons.mp hkeyed
    obtain ⟨hvalue, hvalues⟩ := List.forall_mem_cons.mp hvalues
    exact readsMembers_cons isFirst hspaces hm hkey members more
      (takes_readField_other hm hvalue hnotName hnotFlag found
        (isDelimited_membersText members more))
      (ih hkeyed hvalues hm.value.after hname hflag)

/-! ### Members that give no fields -/

/-- Whether members give fields that were not found before. -/
def GiveFurther (found : Found) (members : List Member) : Prop :=
  ∃ name flag, MembersGive name flag members ∧ (name.isSome → found.programName = none) ∧
    (flag.isSome → found.acceptEmpty = none)

/-- A member is read, and then leaves further fields to be given, or it is refused. -/
theorem readField_cases (hm : m.IsKeyed) (hvalue : IsValue m.value.type m.value.text)
    (hkey : SpellsString key m.key) (found : Found) (hleft : IsDelimited left) :
    (∃ further, Takes (readField found key) (m.after ++ ':' :: (m.value.spelling ++ left)) further
        (m.value.after ++ left) ∧
      ∀ members, GiveFurther further members → GiveFurther found (m :: members)) ∨
      Refuses (readField found key) (m.after ++ ':' :: (m.value.spelling ++ left)) := by
  obtain ⟨foundName, foundFlag⟩ := found
  by_cases hname : key = programNameKey
  · subst hname
    cases foundName with
    | some _ => exact Or.inr (refuses_bind_fail _ _ _)
    | none =>
      rcases readStringValue_cases hm.value.before hvalue (m.value.after ++ left) with
        ⟨name, hspells⟩ | hrefuses
      · refine Or.inl ⟨_, takes_readField_programName hm hspells foundFlag left, ?_⟩
        rintro members ⟨others, flag, hgives, hothers, hflag⟩
        obtain rfl : others = none := by
          cases others with
          | none => rfl
          | some _ => cases hothers rfl
        exact ⟨some name, flag, .programName hkey hspells hgives, fun _ => rfl, hflag⟩
      · right
        rw [Element.spelling, List.append_assoc, List.append_assoc]
        exact ((takes_takeColon hm.after _).goesOn _).refuses (hrefuses.bind _)
  · by_cases hflag : key = acceptEmptyKey
    · subst hflag
      cases foundFlag with
      | some _ => exact Or.inr (refuses_bind_fail _ _ _)
      | none =>
        rcases readBoolValue_cases hm.value.before hvalue (m.value.after ++ left) with
          ⟨flag, hword⟩ | hrefuses
        · refine Or.inl ⟨_, takes_readField_acceptEmpty hm hword foundName left, ?_⟩
          rintro members ⟨name, others, hgives, hname, hothers⟩
          obtain rfl : others = none := by
            cases others with
            | none => rfl
            | some _ => cases hothers rfl
          exact ⟨name, some flag, .acceptEmpty hkey hword hgives, hname, fun _ => rfl⟩
        · right
          rw [Element.spelling, List.append_assoc, List.append_assoc]
          exact ((takes_takeColon hm.after _).goesOn _).refuses (hrefuses.bind _)
    · refine Or.inl ⟨_, takes_readField_other hm hvalue hname hflag _ hleft, ?_⟩
      rintro members ⟨name, flag, hgives, hfurther⟩
      exact ⟨name, flag, .other hkey hname hflag hgives, hfurther⟩

/-- Members give fields that were not found before, or they are refused. -/
theorem members_cases (more : List Char) (hkeyed : ∀ m ∈ members, m.IsKeyed)
    (hvalues : ∀ m ∈ members, IsValue m.value.type m.value.text) :
    ∀ fuel isFirst found {spaces}, IsSpaces spaces →
      GiveFurther found members ∨ Refuses (readMembers fuel isFirst found)
        (spaces ++ (membersText isFirst members ++ '\x7d' :: more)) := by
  -- A member that is read may add a field, which the members after it may not give again.
  induction members with
  | nil =>
    intro fuel isFirst found spaces _
    exact Or.inl ⟨none, none, .nil, by simp, by simp⟩
  | cons m members ih =>
    intro fuel isFirst found spaces hspaces
    obtain ⟨hm, hkeyed⟩ := List.forall_mem_cons.mp hkeyed
    obtain ⟨hvalue, hvalues⟩ := List.forall_mem_cons.mp hvalues
    cases fuel with
    | zero => exact Or.inr (refuses_fail _ _)
    | succ fuel =>
      obtain ⟨body, hbody⟩ := hm.key.exists_cons
      have hstring : IsString ('"' :: body) := hbody ▸ hm.key
      have hleads := leads_readMembers fuel isFirst found hspaces hm hbody
        (membersText false members ++ '\x7d' :: more)
      rcases spells_or_refuses hstring _ with ⟨key, hkey⟩ | hrefuses
      · rcases readField_cases hm hvalue (hbody ▸ hkey) found
          (isDelimited_membersText members more) with ⟨further, htakes, hgive⟩ | hrefuses
        · refine (ih hkeyed hvalues fuel false further hm.value.after).imp (hgive members) ?_
          exact (leads_members fuel isFirst hspaces hm (hbody ▸ hkey) members more htakes).refuses
        · right
          rw [membersText_cons]
          exact hleads.refuses ((leads_readMember fuel found hkey _).refuses (hrefuses.bind _))
      · right
        rw [membersText_cons]
        exact hleads.refuses (hrefuses.bind _)

/-! ### Elements -/

/-- Whether elements give a name and a flag, or only the name, or nothing. -/
inductive ElementsGive : Option String → Option Bool → List Element → Prop
  | nil : ElementsGive none none []
  | programName {name : String} {e : Element} (hname : SpellsString name e.text) :
    ElementsGive (some name) none [e]
  | acceptEmpty {name : String} {flag : Bool} {e e' : Element} (hname : SpellsString name e.text)
    (hflag : e'.text = boolWord flag) : ElementsGive (some name) (some flag) [e, e']

section

variable {α : Type} {value : Scan α} {a : α} {e : Element}

theorem takes_readElement_end (isFirst : Bool) (value : Scan α) (hspaces : IsSpaces spaces)
    (more : List Char) :
    Takes (readElement? isFirst value) (spaces ++ ']' :: more) none (']' :: more) :=
  (leads_spacedToken hspaces (by decide) _ _).takes (takes_pure _ _)

/-- The first element is read as a value. -/
theorem takes_readElement_first (he : e.IsSpaced) (hvalue : IsValue e.type e.text)
    (hread : Takes value (e.text ++ left) a rest) :
    Takes (readElement? true value) (e.before ++ (e.text ++ left)) (some a) rest := by
  obtain ⟨c, cs, htext, hopens⟩ := hvalue.exists_cons
  obtain ⟨htoken, hclosing⟩ := hopens.startsToken
  rw [htext] at hread ⊢
  refine (leads_spacedToken he.before htoken _ _).takes ?_
  split
  · contradiction
  · rename_i heq
    exact absurd (Option.some.inj heq) (hclosing .list)
  · exact hread.bind (takes_pure _ _)

/-- The next element is read as a value after the comma before it. -/
theorem takes_readElement_next (hspaces : IsSpaces spaces) (he : e.IsSpaced)
    (hvalue : IsValue e.type e.text) (hread : Takes value (e.text ++ left) a rest) :
    Takes (readElement? false value) (spaces ++ ',' :: (e.before ++ (e.text ++ left))) (some a)
      rest := by
  obtain ⟨c, cs, htext, hopens⟩ := hvalue.exists_cons
  obtain ⟨htoken, hclosing⟩ := hopens.startsToken
  rw [htext] at hread ⊢
  refine (leads_spacedToken hspaces (by decide) _ _).takes ((takes_discard (by decide) _).bind
    ((leads_spacedToken he.before htoken _ _).takes ?_))
  split
  · rename_i heq
    exact absurd (Option.some.inj heq) (hclosing .list)
  · exact hread.bind (takes_pure _ _)
  · contradiction

theorem takes_closeList (hspaces : IsSpaces spaces) (more : List Char) :
    Takes closeList (spaces ++ ']' :: more) () more :=
  (leads_spacedToken hspaces (by decide) _ _).takes (takes_discard (by decide) more)

/-- Elements that give fields are read for what they give. -/
theorem takes_readElements {elements : List Element} {inside : List Char}
    (hgives : ElementsGive name flag elements) (hspaced : ∀ e ∈ elements, e.IsSpaced)
    (hvalues : ∀ e ∈ elements, IsValue e.type e.text)
    (hinside : IsInside (elements.map Element.spelling) inside) (more : List Char) :
    Takes readElements (inside ++ ']' :: more) ⟨name, flag⟩ more := by
  have hnone : IsSpaces [] := by simp [IsSpaces]
  cases hgives with
  | nil =>
    exact (takes_readElement_end true _ hinside more).bind
      ((takes_readElement_end false _ hnone more).bind
        ((takes_closeList hnone more).bind (takes_pure _ _)))
  | @programName name e hname =>
    obtain ⟨he, -⟩ := List.forall_mem_cons.mp hspaced
    obtain ⟨hvalue, -⟩ := List.forall_mem_cons.mp hvalues
    obtain rfl : inside = e.spelling ++ [] := hinside
    rw [List.append_nil, Element.spelling, List.append_assoc, List.append_assoc]
    exact (takes_readElement_first he hvalue (takes_readStringValue hnone hname _)).bind
      ((takes_readElement_end false _ he.after more).bind
        ((takes_closeList hnone more).bind (takes_pure _ _)))
  | @acceptEmpty name flag e e' hname hflag =>
    obtain ⟨he, hspaced⟩ := List.forall_mem_cons.mp hspaced
    obtain ⟨he', -⟩ := List.forall_mem_cons.mp hspaced
    obtain ⟨hvalue, hvalues⟩ := List.forall_mem_cons.mp hvalues
    obtain ⟨hvalue', -⟩ := List.forall_mem_cons.mp hvalues
    obtain rfl : inside = e.spelling ++ [e'.spelling].flatMap (',' :: ·) := hinside
    have hread : Takes readBoolValue (e'.text ++ (e'.after ++ ']' :: more)) flag
        (e'.after ++ ']' :: more) :=
      hflag ▸ takes_readBoolValue hnone flag _
    rw [List.flatMap_singleton, Element.spelling, Element.spelling]
    simp only [List.append_assoc, List.cons_append]
    exact (takes_readElement_first he hvalue (takes_readStringValue hnone hname _)).bind
      ((takes_readElement_next he.after he' hvalue' hread).bind
        ((takes_closeList he'.after more).bind (takes_pure _ _)))

end

end GoEnum.Settings

/-
  What a settings file says, and what is loaded from it.

  An object whose members give a name and a flag, each once at most, is loaded as just
  these, with the defaults for what is missing, however the text is laid out and whatever
  else the object holds, and so is an array of them. An object that repeats a known key or
  gives it a value of another type is refused, and so is one with a key that spells no text
  (`load_follows`).
-/
import GoEnum.Proofs.Program.Effect
import GoEnum.Proofs.Settings.Fields

namespace GoEnum.Settings

open Json Disk Text

variable {text more rest spaces inside : List Char} {members : List Member}
  {elements : List Element} {name : Option String} {flag : Option Bool} {settings : Settings}

/-! ### Objects that say too much or something else -/

/-- Whether two members have the same known key. -/
def Repeats (members : List Member) : Prop :=
  ∃ key ∈ ["app_name", "allow_empty"], ∃ first second, [first, second].Sublist members ∧
    SpellsString key first.key ∧ SpellsString key second.key

/-- Whether a member with a known key has a value of another type than the field. -/
def Mistypes (members : List Member) : Prop :=
  ∃ m ∈ members, SpellsString "app_name" m.key ∧ m.value.type ≠ .string ∨
    SpellsString "allow_empty" m.key ∧ m.value.type ≠ .boolean

/-- Whether the key of a member spells no text. -/
def GarblesKey (members : List Member) : Prop :=
  ∃ m ∈ members, ¬∃ key, SpellsString key m.key

/-- A member with a known key is the one that gives the field. -/
theorem MembersGive.of_mem (h : MembersGive name flag members) {m : Member} (hm : m ∈ members) :
    (SpellsString "app_name" m.key → ∃ s, name = some s ∧ SpellsString s m.value.text) ∧
      (SpellsString "allow_empty" m.key → ∃ b, flag = some b ∧ m.value.text = boolWord b) := by
  induction h with
  | nil => cases hm
  | @programName s flag first members hkey hvalue hmembers ih =>
    rcases List.mem_cons.mp hm with rfl | hm
    · exact ⟨fun _ => ⟨s, rfl, hvalue⟩,
        fun hother => absurd (hkey.unique hother) (by decide)⟩
    · refine ⟨fun hagain => ?_, (ih hm).2⟩
      obtain ⟨_, hnone, -⟩ := (ih hm).1 hagain
      cases hnone
  | @acceptEmpty name b first members hkey hvalue hmembers ih =>
    rcases List.mem_cons.mp hm with rfl | hm
    · exact ⟨fun hother => absurd (hkey.unique hother) (by decide),
        fun _ => ⟨b, rfl, hvalue⟩⟩
    · refine ⟨(ih hm).1, fun hagain => ?_⟩
      obtain ⟨_, hnone, -⟩ := (ih hm).2 hagain
      cases hnone
  | other hkey hname hflag _ ih =>
    rcases List.mem_cons.mp hm with rfl | hm
    · exact ⟨fun h => absurd (hkey.unique h) hname, fun h => absurd (hkey.unique h) hflag⟩
    · exact ih hm

theorem MembersGive.not_mistypes (h : MembersGive name flag members)
    (hvalues : ∀ m ∈ members, IsValue m.value.type m.value.text) : ¬Mistypes members := by
  rintro ⟨m, hm, ⟨hkey, htype⟩ | ⟨hkey, htype⟩⟩
  · obtain ⟨s, -, spellings, -, htext⟩ := (h.of_mem hm).1 hkey
    exact htype (type_of_quote (htext ▸ hvalues m hm))
  · obtain ⟨b, -, htext⟩ := (h.of_mem hm).2 hkey
    refine htype ?_
    cases b
    · exact type_of_letter (htext ▸ hvalues m hm) (Or.inr rfl)
    · exact type_of_letter (htext ▸ hvalues m hm) (Or.inl rfl)

theorem MembersGive.not_repeats (h : MembersGive name flag members) : ¬Repeats members := by
  rintro ⟨key, hknown, first, second, hsublist, hfirst, hsecond⟩
  induction h with
  | nil => cases hsublist
  | programName hkey _ hmembers ih =>
    cases hsublist with
    | cons _ hsublist => exact ih hsublist
    | cons_cons _ hsublist =>
      obtain rfl := hfirst.unique hkey
      obtain ⟨_, hnone, -⟩ := (hmembers.of_mem (List.singleton_sublist.mp hsublist)).1 hsecond
      cases hnone
  | acceptEmpty hkey _ hmembers ih =>
    cases hsublist with
    | cons _ hsublist => exact ih hsublist
    | cons_cons _ hsublist =>
      obtain rfl := hfirst.unique hkey
      obtain ⟨_, hnone, -⟩ := (hmembers.of_mem (List.singleton_sublist.mp hsublist)).2 hsecond
      cases hnone
  | other hkey hname hflag hmembers ih =>
    cases hsublist with
    | cons _ hsublist => exact ih hsublist
    | cons_cons _ hsublist =>
      obtain rfl := hfirst.unique hkey
      simp only [List.mem_cons, List.not_mem_nil, or_false] at hknown
      exact hknown.elim hname hflag

theorem MembersGive.not_garblesKey (h : MembersGive name flag members) : ¬GarblesKey members := by
  rintro ⟨m, hm, hgarbled⟩
  refine hgarbled ?_
  induction h with
  | nil => cases hm
  | programName hkey _ _ ih | acceptEmpty hkey _ _ ih | other hkey _ _ _ ih =>
    rcases List.mem_cons.mp hm with rfl | hm
    · exact ⟨_, hkey⟩
    · exact ih hm

/-! ### Whole texts -/

theorem membersText_false (members : List Member) :
    membersText false members = (members.map Member.spelling).flatMap (',' :: ·) := by
  induction members with
  | nil => rfl
  | cons m members ih =>
    rw [membersText, ih, List.map_cons, List.flatMap_cons]
    rfl

theorem exists_membersText (h : IsInside (members.map Member.spelling) inside) :
    ∃ spaces, IsSpaces spaces ∧ inside = spaces ++ membersText true members := by
  cases members with
  | nil => exact ⟨inside, h, (List.append_nil inside).symm⟩
  | cons m members =>
    refine ⟨[], by simp [IsSpaces], h.trans ?_⟩
    rw [membersText, membersText_false]
    rfl

/-- An object is read as its members. -/
theorem HoldsObject.leads (h : HoldsObject members text) :
    ∃ fuel spaces after, IsSpaces spaces ∧ IsSpaces after ∧
      (bytesOf (spaces ++ (membersText true members ++ '\x7d' :: after))).length < fuel ∧
      Leads readFields text (readMembers fuel true {})
        (spaces ++ (membersText true members ++ '\x7d' :: after)) := by
  obtain ⟨before, inside, after, hbefore, hinside, hafter, rfl⟩ := h.spelt
  obtain ⟨spaces, hspaces, rfl⟩ := exists_membersText hinside
  refine ⟨_, spaces, after, hspaces, hafter, Nat.lt_succ_self _, ?_⟩
  rw [List.append_assoc, List.cons_append, List.append_assoc]
  exact (leads_spacedToken hbefore (by decide) _ _).trans
    (((takes_discard (by decide) _).goesOn _).trans
      (leads_sized (fun fuel => readMembers fuel true {}) _))

/-- Nothing but white space may follow the fields. -/
theorem takes_readAll {found : Found} (h : Takes readFields text found spaces)
    (hspaces : IsSpaces spaces) : Takes readAll text found.settings [] := by
  refine h.bind ?_
  rw [← List.append_nil spaces]
  exact (leads_spaces hspaces [] _).takes (takes_peekToken_nil.bind (takes_pure _ _))

theorem takes_readAll_object (h : HoldsObject members text)
    (hgives : MembersGive name flag members) :
    Takes readAll text ⟨name.getD "go-enumgen", flag.getD false⟩ [] := by
  obtain ⟨fuel, spaces, after, hspaces, hafter, hfuel, hleads⟩ := HoldsObject.leads h
  have hread : Takes (readMembers fuel true {}) _ ⟨name.or none, flag.or none⟩ after :=
    readsMembers_of_gives hgives after h.keyed h.values hspaces (fun _ => rfl) (fun _ => rfl)
      fuel hfuel
  rw [Option.or_none, Option.or_none] at hread
  exact takes_readAll (hleads.takes hread) hafter

theorem takes_readAll_array (h : HoldsArray elements text)
    (hgives : ElementsGive name flag elements) :
    Takes readAll text ⟨name.getD "go-enumgen", flag.getD false⟩ [] := by
  obtain ⟨before, inside, after, hbefore, hinside, hafter, rfl⟩ := h.spelt
  rw [List.append_assoc, List.cons_append]
  have hread : Takes readFields (before ++ '[' :: (inside ++ ']' :: after)) ⟨name, flag⟩ after :=
    (leads_spacedToken hbefore (by decide) _ _).takes ((takes_discard (by decide) _).bind
      (takes_readElements hgives h.spaced h.values hinside after))
  exact takes_readAll hread hafter

/-- An object that does not give its known members once and with values of their types is
refused. -/
theorem refuses_readAll (h : HoldsObject members text)
    (hgives : ¬∃ name flag, MembersGive name flag members) : Refuses readAll text := by
  obtain ⟨fuel, spaces, after, hspaces, -, -, hleads⟩ := HoldsObject.leads h
  -- No field is found at the start, so fields that can be given further are all the fields.
  rcases members_cases after h.keyed h.values fuel true {} hspaces with
    ⟨name, flag, hfurther, -⟩ | hrefuses
  · exact absurd ⟨name, flag, hfurther⟩ hgives
  · exact (hleads.refuses hrefuses).bind _

theorem parse_of_takes (h : Takes readAll text settings rest) :
    parse (bytesOf text) = .ok settings := by
  obtain ⟨after, -, hread⟩ := h (.start (bytesOf text)) rfl
  have hrun : readAll.run (.start (bytesOf text)) = .ok (settings, after) := hread
  rw [parse, hrun]
  rfl

theorem parse_of_refuses (h : Refuses readAll text) :
    ∃ fault, parse (bytesOf text) = .error fault := by
  obtain ⟨fault, hread⟩ := h (.start (bytesOf text)) rfl
  have hrun : readAll.run (.start (bytesOf text)) = .error fault := hread
  refine ⟨fault, ?_⟩
  rw [parse, hrun]
  rfl

/-! ### Loading a file -/

variable {path : Path} {world : World} {content : String}

/-- Whether loading a file gives some settings. -/
def Loads (path : Path) (world : World) (settings : Settings) : Prop :=
  ∃ after, Yields (load path) world settings after ∧ world.SameDisk after

/-- Whether a file cannot be loaded, which is a fault of the configuration. -/
def CannotLoad (path : Path) (world : World) : Prop :=
  ∃ message after, Fails (load path : Action (StateM World) Settings) world
    (.configuration message) after ∧ world.SameDisk after

theorem loads_of_parse {bytes : List UInt8} (hread : world.tree.read world.here path = .ok bytes)
    (hparse : parse bytes = .ok settings) : Loads path world settings := by
  have hsettings : Program.HasSettings world (some path) settings := ⟨bytes, hread, hparse⟩
  exact Program.yields_settings hsettings

theorem cannotLoad_of_parse {bytes : List UInt8} {fault : Fault}
    (hread : world.tree.read world.here path = .ok bytes) (hparse : parse bytes = .error fault) :
    CannotLoad path world := by
  rcases yields_or_fails (Program.settings (some path)) world with
    ⟨settings, after, hyields⟩ | ⟨failure, after, hfails⟩
  · obtain ⟨other, hother, hspelt⟩ := (Program.hasSettings_of_yields hyields).1
    obtain rfl : bytes = other := Except.ok.inj (hread.symm.trans hother)
    cases hparse.symm.trans hspelt
  · obtain ⟨⟨message, rfl⟩, hsame⟩ := Program.failure_of_fails_settings hfails
    exact ⟨message, after, hfails, hsame⟩

theorem CannotLoad.not_loads (h : CannotLoad path world) : ¬Loads path world settings := by
  rintro ⟨_, hyields, -⟩
  obtain ⟨_, _, hfails, -⟩ := h
  exact hyields.not_fails hfails

theorem cannotLoad_object (hread : world.tree.read world.here path = .ok (Utf8.encode content))
    (hobject : HoldsObject members content.toList)
    (hgives : ¬∃ name flag, MembersGive name flag members) : CannotLoad path world := by
  obtain ⟨fault, hparse⟩ := parse_of_refuses (refuses_readAll hobject hgives)
  exact cannotLoad_of_parse hread hparse

/-- Objects and arrays are loaded for the fields they give, whatever else the objects hold. Objects
that give a field twice or by a value of another type are refused, and so are keys that spell no
text. -/
theorem load_follows (hread : world.tree.read world.here path = .ok (Utf8.encode content)) :
    (∀ members name flag, HoldsObject members content.toList → MembersGive name flag members →
      Loads path world ⟨name.getD "go-enumgen", flag.getD false⟩) ∧
    (∀ elements name flag, HoldsArray elements content.toList → ElementsGive name flag elements →
      Loads path world ⟨name.getD "go-enumgen", flag.getD false⟩) ∧
    ∀ members, HoldsObject members content.toList →
      Repeats members ∨ Mistypes members ∨ GarblesKey members → CannotLoad path world := by
  refine ⟨fun members name flag hobject hgives => ?_, fun elements name flag harray hgives => ?_,
    fun members hobject hwrong => cannotLoad_object hread hobject ?_⟩
  · exact loads_of_parse hread (parse_of_takes (takes_readAll_object hobject hgives))
  · exact loads_of_parse hread (parse_of_takes (takes_readAll_array harray hgives))
  · rintro ⟨name, flag, hgives⟩
    rcases hwrong with hrepeats | hmistypes | hgarbles
    · exact hgives.not_repeats hrepeats
    · exact hgives.not_mistypes hobject.values hmistypes
    · exact hgives.not_garblesKey hgarbles

/-- A working directory that holds a settings file and nothing else. -/
def holding (content : String) : World :=
  ⟨⟨[([Utf8.encode "config.json"], .file (Utf8.encode content))]⟩, [], []⟩

/-- A member with an escape in its key. -/
def escapedKey : Member :=
  ⟨[' '], "\"\\u0061pp_name\"".toList, [], ⟨['\t'], .string, "\"g\"".toList, []⟩⟩

/-- A member with a key that is not known. -/
def otherKey : Member :=
  ⟨['\n'], "\"x\"".toList, [], ⟨[], .null, "null".toList, []⟩⟩

/-- A member with a known key and a value of another type. -/
def mistypedKey : Member :=
  ⟨[], "\"app_name\"".toList, [], ⟨[], .null, "null".toList, []⟩⟩

theorem spellsString_escapedKey : SpellsString "app_name" escapedKey.key :=
  ⟨"\\u0061".toList :: "pp_name".toList.map ([·]),
    .cons (.code (by decide)) (forall₂_plain (by decide)), by decide⟩

theorem holdsObject_escaped : HoldsObject [escapedKey, otherKey]
    "\x7b \"\\u0061pp_name\":\t\"g\",\n\"x\":null\x7d\n".toList := by
  have hname : IsString escapedKey.value.text :=
    SpellsString.isString (spellsString_plain (s := "g") (by decide))
  have hother : IsString otherKey.key :=
    SpellsString.isString (spellsString_plain (s := "x") (by decide))
  refine ⟨?_, ?_, [], _, ['\n'], by decide, rfl, by decide, by decide⟩
  · exact List.forall_mem_cons.mpr
      ⟨⟨by decide, spellsString_escapedKey.isString, by decide, by decide, by decide⟩,
        List.forall_mem_singleton.mpr ⟨by decide, hother, by decide, by decide, by decide⟩⟩
  · exact List.forall_mem_cons.mpr ⟨.string hname, List.forall_mem_singleton.mpr .null⟩

theorem holdsObject_mistyped :
    HoldsObject [mistypedKey] "\x7b\"app_name\":null\x7d".toList := by
  have hkey : IsString mistypedKey.key :=
    SpellsString.isString (spellsString_plain (s := "app_name") (by decide))
  refine ⟨List.forall_mem_singleton.mpr ⟨by decide, hkey, by decide, by decide, by decide⟩,
    List.forall_mem_singleton.mpr .null, [], _, [], by decide, rfl, by decide, by decide⟩

/-- An object with escapes and a further member, an empty array, and an object with `null` for the
name. -/
theorem load_follows_escaped :
    MembersGive (some "g") none [escapedKey, otherKey] ∧
      Loads (.ofText "config.json")
        (holding "\x7b \"\\u0061pp_name\":\t\"g\",\n\"x\":null\x7d\n") ⟨"g", false⟩ ∧
      Loads (.ofText "config.json") (holding "[]") ⟨"go-enumgen", false⟩ ∧
      CannotLoad (.ofText "config.json") (holding "\x7b\"app_name\":null\x7d") := by
  have hgives : MembersGive (some "g") none [escapedKey, otherKey] :=
    .programName spellsString_escapedKey (spellsString_plain (s := "g") (by decide))
      (.other (spellsString_plain (s := "x") (by decide)) (by decide) (by decide) .nil)
  have hnone : IsSpaces [] := by decide
  have harray : HoldsArray [] "[]".toList :=
    ⟨by simp, by simp, [], [], [], hnone, hnone, hnone, by decide⟩
  refine ⟨hgives, (load_follows rfl).1 _ _ _ holdsObject_escaped hgives,
    (load_follows rfl).2.1 [] none none harray .nil,
    (load_follows rfl).2.2 _ holdsObject_mistyped (Or.inr (Or.inl ⟨mistypedKey, by simp, ?_⟩))⟩
  exact Or.inl ⟨spellsString_plain (s := "app_name") (by decide), by decide⟩

/-- A member with half a surrogate pair as its key. -/
def halfPairKey : Member :=
  ⟨[], "\"\\udc00\"".toList, [], ⟨[], .null, "null".toList, []⟩⟩

/-- An object that is refused although its only member has a key that is not known. -/
theorem not_loads_halfPair :
    HoldsObject [halfPairKey] "\x7b\"\\udc00\":null\x7d".toList ∧
      ¬SpellsString "app_name" halfPairKey.key ∧ ¬SpellsString "allow_empty" halfPairKey.key ∧
      ∀ settings, ¬Loads (.ofText "config.json") (holding "\x7b\"\\udc00\":null\x7d") settings := by
  have hcode : SpellsCode 0xDC00 ['d', 'c', '0', '0'] := by decide
  have hgarbled : ∀ key, ¬SpellsString key halfPairKey.key :=
    fun _ => not_spellsString_low hcode (by decide) ['"']
  have hkey : IsString halfPairKey.key :=
    ⟨["\\udc00".toList], List.forall_mem_singleton.mpr (.code hcode), by decide⟩
  have hobject : HoldsObject [halfPairKey] "\x7b\"\\udc00\":null\x7d".toList :=
    ⟨List.forall_mem_singleton.mpr ⟨by decide, hkey, by decide, by decide, by decide⟩,
      List.forall_mem_singleton.mpr .null, [], _, [], by decide, rfl, by decide, by decide⟩
  refine ⟨hobject, hgarbled _, hgarbled _, fun settings => CannotLoad.not_loads ?_⟩
  refine cannotLoad_object rfl hobject ?_
  rintro ⟨name, flag, hgives⟩
  exact hgives.not_garblesKey ⟨halfPairKey, by simp, fun ⟨key, hspells⟩ => hgarbled key hspells⟩

end GoEnum.Settings

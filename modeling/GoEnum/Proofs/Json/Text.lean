/-
  Strings are read as the text they spell.

  `readString` takes a string that spells a text for that text (`takes_readString`). A
  string spells none only if an escape in it is the code of half a surrogate pair alone,
  and then it is refused (`spells_or_refuses`); `skipString` takes it nevertheless
  (`takes_skipString`).
-/
import GoEnum.Json.Text
import GoEnum.Proofs.Json.Scan
import GoEnum.Proofs.Text.Decoding
import GoEnum.Proofs.Text.LetterCase

namespace GoEnum.Json

variable {c letter : Char} {n : Nat} {digits text more rest : List Char}

/-! ### Codes -/

theorem hexDigit?_spec : ∀ n < 16,
    (IsAscii n.digitChar ∧ hexDigit? n.digitChar = some n) ∧
      IsAscii n.digitChar.toUpper ∧ hexDigit? n.digitChar.toUpper = some n := by
  decide

theorem hexDigit?_eq (h : IsHexDigit n c) : IsAscii c ∧ hexDigit? c = some n := by
  obtain ⟨hn, rfl | rfl⟩ := h
  · exact (hexDigit?_spec n hn).1
  · exact (hexDigit?_spec n hn).2

theorem takes_nextInString (hc : IsAscii c) (rest : List Char) :
    Takes nextInString (c :: rest) (UInt8.ofNat c.toNat) rest :=
  (takes_nextByte hc rest).bind (takes_pure _ _)

theorem takes_readHex (h : SpellsCode n digits) (rest : List Char) :
    Takes readHex (digits ++ rest) n rest := by
  obtain ⟨a, _, ha, hthree, rfl⟩ := List.forall₂_cons_left_iff.mp h
  obtain ⟨b, _, hb, htwo, rfl⟩ := List.forall₂_cons_left_iff.mp hthree
  obtain ⟨c, _, hc, hone, rfl⟩ := List.forall₂_cons_left_iff.mp htwo
  obtain ⟨d, _, hd, hnone, rfl⟩ := List.forall₂_cons_left_iff.mp hone
  obtain rfl := List.forall₂_nil_left_iff.mp hnone
  obtain ⟨hasciiA, ha⟩ := hexDigit?_eq ha
  obtain ⟨hasciiB, hb⟩ := hexDigit?_eq hb
  obtain ⟨hasciiC, hc⟩ := hexDigit?_eq hc
  obtain ⟨hasciiD, hd⟩ := hexDigit?_eq hd
  have hnumber : hexNumber? [a, b, c, d] = some n := by
    have hdigits : 16 * (16 * (16 * (16 * 0 + n / 0x1000) + n / 0x100 % 16) + n / 0x10 % 16)
        + n % 16 = n := by
      omega
    simp only [hexNumber?, List.foldlM_cons, List.foldlM_nil, ha, hb, hc, hd, Option.map_some,
      Option.bind_eq_bind, Option.bind_some, hdigits]
    rfl
  refine (takes_nextInString hasciiA _).bind ((takes_nextInString hasciiB _).bind
    ((takes_nextInString hasciiC _).bind ((takes_nextInString hasciiD _).bind ?_)))
  simp only [List.map_cons, List.map_nil, ofUInt8_ofNat, hasciiA, hasciiB, hasciiC, hasciiD,
    hnumber]
  exact takes_pure _ _

/-! ### Escapes -/

theorem lookup_shortEscapes (h : ShortEscape letter c) :
    IsAscii letter ∧ letter ≠ 'u' ∧ shortEscapes.lookup letter = some c := by
  cases h <;> decide

theorem takes_readEscape_short (h : ShortEscape letter c) (rest : List Char) :
    Takes readEscape (letter :: rest) c rest := by
  obtain ⟨hascii, -, hlookup⟩ := lookup_shortEscapes h
  refine (takes_nextInString hascii rest).bind ?_
  simp only [ofUInt8_ofNat hascii, hlookup]
  exact takes_pure _ _

theorem takes_readEscape_code (h : Takes readCodeEscape text c rest) :
    Takes readEscape ('u' :: text) c rest :=
  (takes_nextInString (by decide) text).bind h

theorem refuses_readEscape_code (h : Refuses readCodeEscape text) :
    Refuses readEscape ('u' :: text) :=
  ((takes_nextInString (by decide) text).goesOn _).refuses h

theorem not_isSurrogate (c : Char) :
    isLowSurrogate c.toNat = false ∧ isHighSurrogate c.toNat = false := by
  have hvalid : c.toNat < 0xD800 ∨ 0xDFFF < c.toNat ∧ c.toNat < 0x110000 := c.valid
  simp only [isLowSurrogate, isHighSurrogate, Bool.and_eq_false_iff, decide_eq_false_iff_not]
  omega

/-- The code of a character is its escape. -/
theorem takes_readCodeEscape (h : SpellsCode c.toNat digits) (rest : List Char) :
    Takes readCodeEscape (digits ++ rest) c rest := by
  obtain ⟨hlow, hhigh⟩ := not_isSurrogate c
  refine (takes_readHex h rest).bind ?_
  rw [hlow, hhigh, Char.ofNat_toNat]
  exact takes_pure _ _

theorem takes_nextOfPair (hc : IsAscii c) (rest : List Char) :
    Takes (nextOfPair c) (c :: rest) () rest := by
  refine (takes_nextInString hc rest).bind ?_
  rw [if_pos (ofUInt8_ofNat hc)]
  exact takes_pure _ _

/-- What is read after the escape of a first surrogate. -/
def readSecond (first : Nat) : Scan Char := do
  nextOfPair '\\'
  nextOfPair 'u'
  let second ← readHex
  if isLowSurrogate second then
    return Char.ofNat (0x10000 + (first - 0xD800) * 0x400 + (second - 0xDC00))
  else fail .loneSurrogate

theorem leads_readSecond (h : SpellsCode n digits) (hhigh : isHighSurrogate n = true)
    (text : List Char) : Leads readCodeEscape (digits ++ text) (readSecond n) text := by
  have hlow : isLowSurrogate n = false := by
    simp only [isLowSurrogate, isHighSurrogate, Bool.and_eq_true, Bool.and_eq_false_iff,
      decide_eq_true_eq, decide_eq_false_iff_not] at hhigh ⊢
    omega
  refine ((takes_readHex h text).goesOn _).trans ?_
  rw [hlow, hhigh]
  exact Leads.refl _ _

/-- The codes of a surrogate pair are the escape of a character. -/
theorem takes_readSecond {second : Nat} (hlow : isLowSurrogate second = true)
    (hsecond : SpellsCode second digits) (first : Nat) (rest : List Char) :
    Takes (readSecond first) ('\\' :: 'u' :: (digits ++ rest))
      (Char.ofNat (0x10000 + (first - 0xD800) * 0x400 + (second - 0xDC00))) rest := by
  refine (takes_nextOfPair (by decide) _).bind ((takes_nextOfPair (by decide) _).bind
    ((takes_readHex hsecond rest).bind ?_))
  rw [hlow]
  exact takes_pure _ _

/-! ### Characters that stand for themselves -/

/-- Whether a byte neither ends a string nor starts an escape, and is no control character. -/
structure IsPlainByte (b : UInt8) : Prop where
  ne_quote : Char.ofUInt8 b ≠ '"'
  ne_backslash : Char.ofUInt8 b ≠ '\\'
  not_lt : ¬b < 0x20

theorem IsPlain.bytes (h : IsPlain c) : ∀ b ∈ String.utf8EncodeChar c, IsPlainByte b := by
  intro b hb
  refine ⟨fun heq => h.ne_quote (eq_of_mem_utf8EncodeChar hb (by decide) heq),
    fun heq => h.ne_backslash (eq_of_mem_utf8EncodeChar hb (by decide) heq), fun hlt => ?_⟩
  have hcontrol : b.toNat < 0x20 := hlt
  have hcode := Text.Utf8.toNat_of_mem_utf8EncodeChar hb (by omega)
  have hle := h.le_toNat
  omega

variable {before : List UInt8} {fuel : Nat}

theorem nextInString_cons {b : UInt8} {left : List UInt8} {cursor : Cursor}
    (h : cursor.rest = b :: left) :
    nextInString cursor = .ok (b, ⟨left, cursor.taken + 1, false⟩) := by
  rw [nextInString, bind_apply, nextByte, h]
  rfl

/-- Whether a reader, which counts how much more it takes, takes plain bytes one by one and puts
them before the ones it has. -/
def TakesPlain {α : Type} (read : Nat → List UInt8 → Scan α) : Prop :=
  ∀ (fuel : Nat) (before : List UInt8) (b : UInt8) (left : List UInt8) (cursor : Cursor),
    IsPlainByte b → cursor.rest = b :: left →
      read (fuel + 1) before cursor = read fuel (b :: before) ⟨left, cursor.taken + 1, false⟩

theorem takesPlain_readBytes : TakesPlain readBytes := by
  intro fuel before b left cursor hb hcursor
  rw [readBytes, bind_apply, nextInString_cons hcursor]
  simp only [Except.bind, if_neg hb.ne_quote, if_neg hb.ne_backslash, if_neg hb.not_lt]

theorem takesPlain_skipBytes : TakesPlain fun fuel _ => skipBytes fuel := by
  intro fuel before b left cursor hb hcursor
  change skipBytes (fuel + 1) cursor = skipBytes fuel _
  rw [skipBytes, bind_apply, nextInString_cons hcursor]
  simp only [Except.bind, if_neg hb.ne_quote, if_neg hb.ne_backslash, if_neg hb.not_lt]

theorem TakesPlain.bytes {α : Type} {read : Nat → List UInt8 → Scan α} (h : TakesPlain read)
    {bytes left : List UInt8} (hbytes : ∀ b ∈ bytes, IsPlainByte b) {cursor : Cursor}
    (hcursor : cursor.rest = bytes ++ left) :
    ∃ after : Cursor, after.rest = left ∧
      read (fuel + bytes.length) before cursor = read fuel (bytes.reverse ++ before) after := by
  induction bytes generalizing before cursor with
  | nil => exact ⟨cursor, hcursor, rfl⟩
  | cons b bytes ih =>
    have hb := hbytes b List.mem_cons_self
    rw [List.length_cons, ← Nat.add_assoc, h _ _ b (bytes ++ left) cursor hb hcursor,
      List.reverse_cons, List.append_assoc]
    exact ih (fun d hd => hbytes d (List.mem_cons_of_mem b hd)) rfl

/-- A character that stands for itself is taken as its bytes. -/
theorem TakesPlain.leads {α : Type} {read : Nat → List UInt8 → Scan α} (h : TakesPlain read)
    (hc : IsPlain c) (fuel : Nat) (before : List UInt8) (text : List Char) :
    Leads (read (fuel + (String.utf8EncodeChar c).length) before) (c :: text)
      (read fuel ((String.utf8EncodeChar c).reverse ++ before)) text :=
  fun _ hcursor => h.bytes hc.bytes hcursor

/-! ### Texts -/

theorem takes_readBytes_quote (fuel : Nat) (before : List UInt8) (rest : List Char) :
    Takes (readBytes (fuel + 1) before) ('"' :: rest) before.reverse rest :=
  (takes_nextInString (by decide) rest).bind (takes_pure _ _)

theorem leads_readBytes_escape (h : Takes readEscape text c rest) (fuel : Nat)
    (before : List UInt8) :
    Leads (readBytes (fuel + 1) before) ('\\' :: text)
      (readBytes fuel ((String.utf8EncodeChar c).reverse ++ before)) rest :=
  ((takes_nextInString (by decide) text).goesOn _).trans (h.goesOn _)

theorem refuses_readBytes_escape (h : Refuses readEscape text) (fuel : Nat)
    (before : List UInt8) : Refuses (readBytes (fuel + 1) before) ('\\' :: text) :=
  ((takes_nextInString (by decide) text).goesOn _).refuses (h.bind _)

theorem isHighSurrogate_pair (c : Char) (hlarge : 0x10000 ≤ c.toNat) :
    isHighSurrogate (0xD800 + (c.toNat - 0x10000) / 0x400) = true ∧
      isLowSurrogate (0xDC00 + (c.toNat - 0x10000) % 0x400) = true := by
  have hvalid : c.toNat < 0xD800 ∨ 0xDFFF < c.toNat ∧ c.toNat < 0x110000 := c.valid
  simp only [isLowSurrogate, isHighSurrogate, Bool.and_eq_true, decide_eq_true_eq]
  omega

/-- The escape of a character is read as the character. -/
theorem SpellsChar.takes {spelling : List Char} (h : SpellsChar c ('\\' :: spelling))
    (rest : List Char) : Takes readEscape (spelling ++ rest) c rest := by
  cases h with
  | plain h => exact absurd rfl h.ne_backslash
  | short h => exact takes_readEscape_short h rest
  | code h => exact takes_readEscape_code (takes_readCodeEscape h rest)
  | @pair first second hlarge hfirst hsecond =>
    obtain ⟨hhigh, hlow⟩ := isHighSurrogate_pair c hlarge
    have hcode : 0x10000 + (0xD800 + (c.toNat - 0x10000) / 0x400 - 0xD800) * 0x400
        + (0xDC00 + (c.toNat - 0x10000) % 0x400 - 0xDC00) = c.toNat := by
      omega
    have htaken := takes_readSecond hlow hsecond (0xD800 + (c.toNat - 0x10000) / 0x400) rest
    rw [hcode, Char.ofNat_toNat] at htaken
    change Takes readEscape ('u' :: (first ++ '\\' :: 'u' :: second ++ rest)) c rest
    rw [List.append_assoc]
    exact takes_readEscape_code ((leads_readSecond hfirst hhigh _).takes htaken)

/-- A character stands for itself or is spelt by an escape. -/
theorem SpellsChar.plain_or_escape {spelling : List Char} (h : SpellsChar c spelling) :
    IsPlain c ∧ spelling = [c] ∨ ∃ escape, spelling = '\\' :: escape := by
  cases h with
  | plain h => exact Or.inl ⟨h, rfl⟩
  | short h => exact Or.inr ⟨_, rfl⟩
  | code h => exact Or.inr ⟨_, rfl⟩
  | pair _ _ _ => exact Or.inr ⟨_, rfl⟩

/-- A spelling of a character is read as its bytes, in as many steps as it has bytes at most. -/
theorem leads_readBytes_char {spelling : List Char} (h : SpellsChar c spelling) (text : List Char) :
    ∃ count ≤ (bytesOf spelling).length, ∀ fuel before,
      Leads (readBytes (fuel + count) before) (spelling ++ text)
        (readBytes fuel ((String.utf8EncodeChar c).reverse ++ before)) text := by
  rcases h.plain_or_escape with ⟨hc, rfl⟩ | ⟨escape, rfl⟩
  · refine ⟨(String.utf8EncodeChar c).length, ?_, fun fuel before =>
      takesPlain_readBytes.leads hc fuel before text⟩
    rw [bytesOf_cons, List.length_append]
    exact Nat.le_add_right _ _
  · refine ⟨1, ?_, fun fuel before => leads_readBytes_escape (h.takes text) fuel before⟩
    rw [bytesOf_ascii (by decide)]
    exact Nat.le_add_left _ _

/-- A text is read from its spelling, up to the quote after it. -/
theorem takes_readBytes {s : List Char} {spellings : List (List Char)}
    (h : List.Forall₂ SpellsChar s spellings) (rest : List Char) :
    ∀ fuel before, (bytesOf (spellings.flatten ++ '"' :: rest)).length < fuel →
      Takes (readBytes fuel before) (spellings.flatten ++ '"' :: rest)
        (before.reverse ++ bytesOf s) rest := by
  -- The bytes read before are kept in reverse, and every step takes a byte at least.
  induction h with
  | nil =>
    intro fuel before hfuel
    obtain ⟨fuel, rfl⟩ := Nat.exists_eq_add_one.mpr (Nat.zero_lt_of_lt hfuel)
    rw [List.flatten_nil, List.nil_append, bytesOf_nil, List.append_nil]
    exact takes_readBytes_quote fuel before rest
  | @cons c spelling s spellings hc _ ih =>
    intro fuel before hfuel
    obtain ⟨count, hcount, hleads⟩ := leads_readBytes_char hc (spellings.flatten ++ '"' :: rest)
    rw [List.flatten_cons, List.append_assoc] at hfuel ⊢
    rw [bytesOf_append, List.length_append] at hfuel
    obtain ⟨left, rfl⟩ : ∃ left, fuel = left + count := ⟨fuel - count, by omega⟩
    have hrest := ih left ((String.utf8EncodeChar c).reverse ++ before) (by omega)
    rw [List.reverse_append, List.reverse_reverse, List.append_assoc, ← bytesOf_cons] at hrest
    exact (hleads left before).takes hrest

/-- A string that spells a text is read as the text. -/
theorem takes_readString {s : String} {body : List Char} (h : SpellsString s ('"' :: body))
    (rest : List Char) : Takes readString (body ++ rest) s rest := by
  obtain ⟨spellings, hspellings, hbody⟩ := h
  obtain rfl : body = spellings.flatten ++ ['"'] := (List.cons.inj hbody).2
  have hread := takes_readBytes hspellings rest _ [] (Nat.lt_succ_self _)
  rw [List.append_assoc]
  refine (leads_sized (fun n => readBytes n [] >>= _) _).takes (hread.bind ?_)
  have hdecode : Text.Utf8.decode? (bytesOf s.toList) = some s := Text.Utf8.decode?_encode s
  rw [List.reverse_nil, List.nil_append, hdecode]
  exact takes_pure _ _

/-- A string spells one text at most. -/
theorem SpellsString.unique {s t : String} {cs : List Char} (hs : SpellsString s cs)
    (ht : SpellsString t cs) : s = t := by
  obtain ⟨body, rfl⟩ := hs.isString.exists_cons
  exact (takes_readString hs []).unique (takes_readString ht [])

/-! ### Strings that spell no text -/

/-- Whether the bytes of a string cannot be read from a text on. -/
def RefusesText (text : List Char) : Prop :=
  ∀ fuel before, (bytesOf text).length < fuel → Refuses (readBytes fuel before) text

theorem RefusesText.char {spelling : List Char} (h : RefusesText text)
    (hc : SpellsChar c spelling) : RefusesText (spelling ++ text) := by
  intro fuel before hfuel
  obtain ⟨count, hcount, hleads⟩ := leads_readBytes_char hc text
  rw [bytesOf_append, List.length_append] at hfuel
  obtain ⟨left, rfl⟩ : ∃ left, fuel = left + count := ⟨fuel - count, by omega⟩
  exact (hleads left before).refuses (h left _ (by omega))

theorem refusesText_escape (h : Refuses readEscape text) : RefusesText ('\\' :: text) := by
  intro fuel before hfuel
  obtain ⟨fuel, rfl⟩ := Nat.exists_eq_add_one.mpr (Nat.zero_lt_of_lt hfuel)
  exact refuses_readBytes_escape h fuel before

theorem RefusesText.refuses (h : RefusesText text) : Refuses readString text :=
  (leads_sized (fun n => readBytes n [] >>= _) _).refuses ((h _ [] (Nat.lt_succ_self _)).bind _)

/-- A second surrogate is no start of a pair. -/
theorem refuses_readCodeEscape_low (h : SpellsCode n digits) (hlow : isLowSurrogate n = true)
    (rest : List Char) : Refuses readCodeEscape (digits ++ rest) := by
  refine ((takes_readHex h rest).goesOn _).refuses ?_
  rw [hlow]
  exact refuses_fail _ _

theorem refuses_nextOfPair {d : Char} (hd : IsAscii d) (hne : c ≠ d) (text : List Char) :
    Refuses (nextOfPair d) (c :: text) := by
  intro cursor hcursor
  obtain ⟨b, bytes, hbytes⟩ := List.exists_cons_of_ne_nil (utf8EncodeChar_ne_nil c)
  rw [bytesOf_cons, hbytes, List.cons_append] at hcursor
  have hb : Char.ofUInt8 b ≠ d := fun heq =>
    hne (eq_of_mem_utf8EncodeChar (hbytes ▸ List.mem_cons_self) hd heq)
  rw [nextOfPair, bind_apply, nextInString_cons hcursor]
  simp only [Except.bind, if_neg hb]
  exact ⟨_, rfl⟩

/-- After a first surrogate, the next part of a string is the escape of a second one, or the string
is refused. -/
theorem second_or_refuses {parts : List (List Char)} (hparts : ∀ part ∈ parts, IsStringPart part)
    (first : Nat) (rest : List Char) :
    (∃ second digits others, SpellsCode second digits ∧ isLowSurrogate second = true ∧
      parts = ('\\' :: 'u' :: digits) :: others) ∨
      Refuses (readSecond first) (parts.flatten ++ '"' :: rest) := by
  cases parts with
  | nil => exact Or.inr ((refuses_nextOfPair (by decide) (by decide) _).bind _)
  | cons part others =>
    cases hparts part List.mem_cons_self with
    | plain h => exact Or.inr ((refuses_nextOfPair (by decide) h.ne_backslash _).bind _)
    | short h =>
      obtain ⟨-, hletter, -⟩ := lookup_shortEscapes h
      exact Or.inr (((takes_nextOfPair (by decide) _).goesOn _).refuses
        ((refuses_nextOfPair (by decide) hletter _).bind _))
    | @code second digits h =>
      cases hlow : isLowSurrogate second with
      | true => exact Or.inl ⟨second, digits, others, h, hlow, rfl⟩
      | false =>
        right
        rw [List.flatten_cons, List.append_assoc]
        refine ((takes_nextOfPair (by decide) _).goesOn _).refuses
          (((takes_nextOfPair (by decide) _).goesOn _).refuses
            (((takes_readHex h _).goesOn _).refuses ?_))
        rw [hlow]
        exact refuses_fail _ _

/-- Whether a row of parts spells a text, or cannot be read as one. -/
def SpellsOrRefuses (body rest : List Char) : Prop :=
  (∃ s spellings, List.Forall₂ SpellsChar s spellings ∧ body = spellings.flatten) ∨
    RefusesText (body ++ '"' :: rest)

theorem SpellsOrRefuses.char {body spelling : List Char} (h : SpellsOrRefuses body rest)
    (hc : SpellsChar c spelling) : SpellsOrRefuses (spelling ++ body) rest := by
  rcases h with ⟨s, spellings, hspellings, rfl⟩ | hrefuses
  · exact Or.inl ⟨c :: s, spelling :: spellings, hspellings.cons hc, rfl⟩
  · right
    rw [List.append_assoc]
    exact hrefuses.char hc

theorem SpellsCode.lt (h : SpellsCode n digits) : n < 0x10000 := by
  obtain ⟨_, _, ⟨hdigit, -⟩, -, -⟩ := List.forall₂_cons_left_iff.mp h
  omega

/-- A code that is no surrogate is the code of a character. -/
theorem spellsChar_code (h : SpellsCode n digits) (hlow : ¬isLowSurrogate n = true)
    (hhigh : ¬isHighSurrogate n = true) : SpellsChar (Char.ofNat n) ('\\' :: 'u' :: digits) := by
  have hlt := h.lt
  simp only [isLowSurrogate, isHighSurrogate, Bool.and_eq_true, decide_eq_true_eq] at hlow hhigh
  have hvalid : n.isValidChar := by
    simp only [Nat.isValidChar]
    omega
  refine .code ?_
  rwa [Text.toNat_ofNat hvalid]

/-- The codes of a surrogate pair are those of a character. -/
theorem spellsChar_pair {first second : Nat} {firstDigits secondDigits : List Char}
    (hfirst : SpellsCode first firstDigits) (hsecond : SpellsCode second secondDigits)
    (hhigh : isHighSurrogate first = true) (hlow : isLowSurrogate second = true) :
    SpellsChar (Char.ofNat (0x10000 + (first - 0xD800) * 0x400 + (second - 0xDC00)))
      ('\\' :: 'u' :: firstDigits ++ '\\' :: 'u' :: secondDigits) := by
  simp only [isLowSurrogate, isHighSurrogate, Bool.and_eq_true, decide_eq_true_eq] at hlow hhigh
  have hvalid : (0x10000 + (first - 0xD800) * 0x400 + (second - 0xDC00)).isValidChar := by
    simp only [Nat.isValidChar]
    omega
  have hcode : (Char.ofNat (0x10000 + (first - 0xD800) * 0x400 + (second - 0xDC00))).toNat =
      0x10000 + (first - 0xD800) * 0x400 + (second - 0xDC00) :=
    Text.toNat_ofNat hvalid
  refine .pair (by omega) ?_ ?_
  · convert hfirst using 1
    omega
  · convert hsecond using 1
    omega

/-- A row of parts spells a text unless it has half a surrogate pair alone, and then it cannot be
read as one. -/
theorem spellsOrRefuses_parts (rest : List Char) (parts : List (List Char))
    (hparts : ∀ part ∈ parts, IsStringPart part) : SpellsOrRefuses parts.flatten rest := by
  -- A surrogate pair uses up two parts, so the recursion is not always on the tail.
  match parts, hparts with
  | [], _ => exact Or.inl ⟨[], [], .nil, rfl⟩
  | part :: others, hparts =>
    obtain ⟨hpart, hothers⟩ := List.forall_mem_cons.mp hparts
    have ih := spellsOrRefuses_parts rest others hothers
    rw [List.flatten_cons]
    cases hpart with
    | plain h => exact ih.char (.plain h)
    | short h => exact ih.char (.short h)
    | @code n digits h =>
      by_cases hlow : isLowSurrogate n = true
      · right
        rw [List.append_assoc]
        exact refusesText_escape
          (refuses_readEscape_code (refuses_readCodeEscape_low h hlow _))
      · by_cases hhigh : isHighSurrogate n = true
        · rcases second_or_refuses hothers n rest with
            ⟨second, digitsSecond, further, hsecond, hlow, rfl⟩ | hrefuses
          · have ihFurther := spellsOrRefuses_parts rest further
              (List.forall_mem_cons.mp hothers).2
            have hchar := ihFurther.char (spellsChar_pair h hsecond hhigh hlow)
            rwa [List.append_assoc] at hchar
          · right
            rw [List.append_assoc]
            exact refusesText_escape
              (refuses_readEscape_code ((leads_readSecond h hhigh _).refuses hrefuses))
        · exact ih.char (spellsChar_code h hlow hhigh)
termination_by parts.length

/-- A string spells a text, or is refused as one. -/
theorem spells_or_refuses {body : List Char} (h : IsString ('"' :: body)) (rest : List Char) :
    (∃ s, SpellsString s ('"' :: body)) ∨ Refuses readString (body ++ rest) := by
  obtain ⟨parts, hparts, hbody⟩ := h
  obtain rfl : body = parts.flatten ++ ['"'] := (List.cons.inj hbody).2
  rcases spellsOrRefuses_parts rest parts hparts with ⟨s, spellings, hspellings, hsame⟩ | hrefuses
  · refine Or.inl ⟨String.ofList s, spellings, ?_, ?_⟩
    · rwa [String.toList_ofList]
    · rw [hsame]
      rfl
  · right
    rw [List.append_assoc]
    exact hrefuses.refuses

/-- A string that starts with a second surrogate spells no text. -/
theorem not_spellsString_low {s : String} (h : SpellsCode n digits)
    (hlow : isLowSurrogate n = true) (body : List Char) :
    ¬SpellsString s ('"' :: '\\' :: 'u' :: (digits ++ body)) := by
  intro hs
  have hrefuses : RefusesText ('\\' :: 'u' :: (digits ++ body)) :=
    refusesText_escape (refuses_readEscape_code (refuses_readCodeEscape_low h hlow body))
  have htakes := takes_readString hs []
  rw [List.append_nil] at htakes
  exact htakes.not_refuses hrefuses.refuses

/-! ### Skipping -/

theorem leads_skipBytes_part {part : List Char} (h : IsStringPart part) (text : List Char) :
    ∃ count ≤ (bytesOf part).length, ∀ fuel,
      Leads (skipBytes (fuel + count)) (part ++ text) (skipBytes fuel) text := by
  cases h with
  | @plain c h =>
    refine ⟨(String.utf8EncodeChar c).length, ?_, fun fuel =>
      takesPlain_skipBytes.leads h fuel [] text⟩
    have hbytes : bytesOf [c] = String.utf8EncodeChar c := by
      rw [bytesOf_cons, bytesOf_nil, List.append_nil]
    exact Nat.le_of_eq (congrArg List.length hbytes.symm)
  | @short letter c h =>
    obtain ⟨hascii, -, hlookup⟩ := lookup_shortEscapes h
    refine ⟨1, ?_, fun fuel => ?_⟩
    · rw [bytesOf_ascii (by decide)]
      exact Nat.le_add_left _ _
    · refine ((takes_nextInString (by decide) _).goesOn _).trans
        (((takes_nextInString hascii text).goesOn _).trans ?_)
      simp only [ofUInt8_ofNat hascii, hlookup, Option.isSome_some, ↓reduceIte]
      exact Leads.refl _ _
  | @code n digits h =>
    refine ⟨1, ?_, fun fuel => ?_⟩
    · rw [bytesOf_ascii (by decide)]
      exact Nat.le_add_left _ _
    · exact ((takes_nextInString (by decide) _).goesOn _).trans
        (((takes_nextInString (by decide) _).goesOn _).trans ((takes_readHex h text).goesOn _))

theorem takes_skipBytes {parts : List (List Char)} (hparts : ∀ part ∈ parts, IsStringPart part)
    (rest : List Char) :
    ∀ fuel, (bytesOf (parts.flatten ++ '"' :: rest)).length < fuel →
      Takes (skipBytes fuel) (parts.flatten ++ '"' :: rest) () rest := by
  induction parts with
  | nil =>
    intro fuel hfuel
    obtain ⟨fuel, rfl⟩ := Nat.exists_eq_add_one.mpr (Nat.zero_lt_of_lt hfuel)
    rw [List.flatten_nil, List.nil_append]
    exact (takes_nextInString (by decide) rest).bind (takes_pure _ _)
  | cons part parts ih =>
    intro fuel hfuel
    obtain ⟨hpart, hparts⟩ := List.forall_mem_cons.mp hparts
    obtain ⟨count, hcount, hleads⟩ := leads_skipBytes_part hpart (parts.flatten ++ '"' :: rest)
    rw [List.flatten_cons, List.append_assoc] at hfuel ⊢
    rw [bytesOf_append, List.length_append] at hfuel
    obtain ⟨left, rfl⟩ : ∃ left, fuel = left + count := ⟨fuel - count, by omega⟩
    exact (hleads left).takes (ih hparts left (by omega))

/-- Every string is skipped, whether it spells a text or not. -/
theorem takes_skipString {body : List Char} (h : IsString ('"' :: body)) (rest : List Char) :
    Takes skipString (body ++ rest) () rest := by
  obtain ⟨parts, hparts, hbody⟩ := h
  obtain rfl : body = parts.flatten ++ ['"'] := (List.cons.inj hbody).2
  rw [List.append_assoc]
  exact (leads_sized skipBytes _).takes (takes_skipBytes hparts rest _ (Nat.lt_succ_self _))

end GoEnum.Json

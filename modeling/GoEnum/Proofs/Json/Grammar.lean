/-
  The grammar of JSON texts.

  A value is spelt by characters (`IsValue`), with white space between tokens and with
  escapes as its writer chose them. A string is first of all a row of parts (`IsString`):
  characters that stand for themselves, short escapes and escapes by code. Such a row need
  not spell a text, since an escape may be the code of half a surrogate pair alone;
  `SpellsString` says which text a string spells. None of this speaks of how a text is
  read.
-/
import Mathlib.Data.List.Forall2
import Mathlib.Tactic.MkIffOfInductiveProp

namespace GoEnum.Json

/-- Whether characters are white space that may stand between tokens. -/
def IsSpaces (cs : List Char) : Prop :=
  ∀ c ∈ cs, c = ' ' ∨ c = '\t' ∨ c = '\n' ∨ c = '\r'

instance (cs : List Char) : Decidable (IsSpaces cs) :=
  List.decidableBAll _ cs

/-! ### Strings -/

/-- Whether a character is the hexadecimal digit of a number, small or capital. -/
def IsHexDigit (n : Nat) (c : Char) : Prop :=
  n < 16 ∧ (c = n.digitChar ∨ c = n.digitChar.toUpper)

instance (n : Nat) (c : Char) : Decidable (IsHexDigit n c) :=
  inferInstanceAs (Decidable (_ ∧ _))

/-- Whether four hexadecimal digits spell a number. -/
def SpellsCode (n : Nat) (digits : List Char) : Prop :=
  List.Forall₂ IsHexDigit [n / 0x1000, n / 0x100 % 16, n / 0x10 % 16, n % 16] digits

instance (n : Nat) (digits : List Char) : Decidable (SpellsCode n digits) :=
  inferInstanceAs (Decidable (List.Forall₂ _ _ _))

/-- The letters that follow a backslash in a short escape, with what they stand for. -/
inductive ShortEscape : Char → Char → Prop
  | quote : ShortEscape '"' '"'
  | backslash : ShortEscape '\\' '\\'
  | slash : ShortEscape '/' '/'
  | backspace : ShortEscape 'b' '\x08'
  | formFeed : ShortEscape 'f' '\x0c'
  | lineFeed : ShortEscape 'n' '\n'
  | carriageReturn : ShortEscape 'r' '\r'
  | tab : ShortEscape 't' '\t'

/-- Whether a character may stand for itself in a string. -/
@[mk_iff]
structure IsPlain (c : Char) : Prop where
  /-- It is no control character, -/
  le_toNat : 0x20 ≤ c.toNat
  /-- it does not end the string, -/
  ne_quote : c ≠ '"'
  /-- and it does not start an escape. -/
  ne_backslash : c ≠ '\\'

instance (c : Char) : Decidable (IsPlain c) :=
  decidable_of_iff _ (isPlain_iff c).symm

/-- Whether characters are a part of a string: a character that stands for itself, or an escape. -/
inductive IsStringPart : List Char → Prop
  | plain {c : Char} (h : IsPlain c) : IsStringPart [c]
  | short {letter c : Char} (h : ShortEscape letter c) : IsStringPart ['\\', letter]
  | code {n : Nat} {digits : List Char} (h : SpellsCode n digits) :
    IsStringPart ('\\' :: 'u' :: digits)

/-- Whether characters are a string. -/
def IsString (cs : List Char) : Prop :=
  ∃ parts : List (List Char), (∀ part ∈ parts, IsStringPart part) ∧
    cs = '"' :: parts.flatten ++ ['"']

/-- The ways to spell a character in a string. A character beyond the codes of four digits is
spelt by the codes of a surrogate pair. -/
inductive SpellsChar (c : Char) : List Char → Prop
  | plain (h : IsPlain c) : SpellsChar c [c]
  | short {letter : Char} (h : ShortEscape letter c) : SpellsChar c ['\\', letter]
  | code {digits : List Char} (h : SpellsCode c.toNat digits) : SpellsChar c ('\\' :: 'u' :: digits)
  | pair {first second : List Char} (hlarge : 0x10000 ≤ c.toNat)
    (hfirst : SpellsCode (0xD800 + (c.toNat - 0x10000) / 0x400) first)
    (hsecond : SpellsCode (0xDC00 + (c.toNat - 0x10000) % 0x400) second) :
    SpellsChar c ('\\' :: 'u' :: first ++ '\\' :: 'u' :: second)

/-- Whether characters are a string that spells a text. -/
def SpellsString (s : String) (cs : List Char) : Prop :=
  ∃ spellings, List.Forall₂ SpellsChar s.toList spellings ∧ cs = '"' :: spellings.flatten ++ ['"']

/-- A spelling of characters consists of parts of a string. -/
theorem exists_parts {s : List Char} {spellings : List (List Char)}
    (h : List.Forall₂ SpellsChar s spellings) :
    ∃ parts : List (List Char), (∀ part ∈ parts, IsStringPart part) ∧
      spellings.flatten = parts.flatten := by
  induction h with
  | nil => exact ⟨[], by simp, rfl⟩
  | @cons c spelling s spellings hc _ ih =>
    obtain ⟨parts, hparts, hsame⟩ := ih
    rw [List.flatten_cons, hsame]
    cases hc with
    | plain h => exact ⟨_ :: parts, List.forall_mem_cons.mpr ⟨.plain h, hparts⟩, rfl⟩
    | short h => exact ⟨_ :: parts, List.forall_mem_cons.mpr ⟨.short h, hparts⟩, rfl⟩
    | code h => exact ⟨_ :: parts, List.forall_mem_cons.mpr ⟨.code h, hparts⟩, rfl⟩
    | pair _ hfirst hsecond =>
      refine ⟨_ :: _ :: parts, List.forall_mem_cons.mpr
        ⟨.code hfirst, List.forall_mem_cons.mpr ⟨.code hsecond, hparts⟩⟩, ?_⟩
      rw [List.flatten_cons, List.flatten_cons, List.append_assoc]

theorem SpellsString.isString {s : String} {cs : List Char} (h : SpellsString s cs) :
    IsString cs := by
  obtain ⟨spellings, hspellings, rfl⟩ := h
  obtain ⟨parts, hparts, hsame⟩ := exists_parts hspellings
  exact ⟨parts, hparts, by rw [hsame]⟩

/-- Characters that stand for themselves are their own spelling. -/
theorem forall₂_plain {cs : List Char} (h : cs.all (IsPlain ·) = true) :
    List.Forall₂ SpellsChar cs (cs.map ([·])) := by
  induction cs with
  | nil => exact .nil
  | cons c cs ih =>
    rw [List.all_cons, Bool.and_eq_true, decide_eq_true_eq] at h
    exact .cons (.plain h.1) (ih h.2)

theorem spellsString_plain {s : String} (h : s.toList.all (IsPlain ·) = true) :
    SpellsString s ('"' :: s.toList ++ ['"']) := by
  refine ⟨_, forall₂_plain h, ?_⟩
  rw [← List.flatMap_def, List.flatMap_singleton']

theorem IsString.exists_cons {cs : List Char} (h : IsString cs) : ∃ body, cs = '"' :: body := by
  obtain ⟨parts, -, rfl⟩ := h
  exact ⟨_, rfl⟩

/-! ### Numbers -/

/-- Whether characters are decimal digits, at least one. -/
def IsDigits (cs : List Char) : Prop :=
  cs ≠ [] ∧ ∀ c ∈ cs, c.isDigit = true

/-- Whether characters are the integer part of a number: no digit follows a zero at the start. -/
def IsIntegerPart (cs : List Char) : Prop :=
  cs = ['0'] ∨ IsDigits cs ∧ cs.head? ≠ some '0'

/-- Whether characters are the fraction of a number, with its point. -/
def IsFraction (cs : List Char) : Prop :=
  ∃ digits, IsDigits digits ∧ cs = '.' :: digits

/-- Whether characters are the exponent of a number, with its letter. -/
def IsExponent (cs : List Char) : Prop :=
  ∃ letter sign digits, (letter = 'e' ∨ letter = 'E') ∧ (sign = [] ∨ sign = ['+'] ∨ sign = ['-']) ∧
    IsDigits digits ∧ cs = letter :: (sign ++ digits)

/-- Whether characters are a number without a sign. -/
def IsUnsignedNumber (cs : List Char) : Prop :=
  ∃ whole fraction exponent, IsIntegerPart whole ∧ (fraction = [] ∨ IsFraction fraction) ∧
    (exponent = [] ∨ IsExponent exponent) ∧ cs = whole ++ (fraction ++ exponent)

/-- Whether characters are a number. -/
def IsNumber (cs : List Char) : Prop :=
  IsUnsignedNumber cs ∨ ∃ unsigned, IsUnsignedNumber unsigned ∧ cs = '-' :: unsigned

/-! ### Values -/

/-- The types of values. -/
inductive ValueType where
  | null
  | boolean
  | number
  | string
  | array
  | object
deriving Repr, DecidableEq

/-- The word for a Boolean. -/
def boolWord : Bool → List Char
  | true => ['t', 'r', 'u', 'e']
  | false => ['f', 'a', 'l', 's', 'e']

/-- An element of an array as it is written. -/
structure Element where
  /-- The white space before it. -/
  before : List Char
  /-- The type of its value. -/
  type : ValueType
  /-- The characters of its value. -/
  text : List Char
  /-- The white space after it. -/
  after : List Char

/-- The characters of an element. -/
def Element.spelling (e : Element) : List Char :=
  e.before ++ (e.text ++ e.after)

/-- A member of an object as it is written. -/
structure Member where
  /-- The white space before its key. -/
  before : List Char
  /-- The characters of its key, with the quotes. -/
  key : List Char
  /-- The white space after its key. -/
  after : List Char
  /-- What follows the colon. -/
  value : Element

/-- The characters of a member. -/
def Member.spelling (m : Member) : List Char :=
  m.before ++ (m.key ++ (m.after ++ ':' :: m.value.spelling))

/-- Whether there is nothing but white space around the value of an element. -/
structure Element.IsSpaced (e : Element) : Prop where
  before : IsSpaces e.before
  after : IsSpaces e.after

/-- Whether a member has a string as its key, and nothing but white space around its key and its
value. -/
structure Member.IsKeyed (m : Member) : Prop where
  before : IsSpaces m.before
  key : IsString m.key
  after : IsSpaces m.after
  value : m.value.IsSpaced

/-- Whether items with commas between them stand between two brackets, or white space does if
there are none. -/
def IsInside : List (List Char) → List Char → Prop
  | [], inside => IsSpaces inside
  | first :: others, inside => inside = first ++ others.flatMap (',' :: ·)

/-- Whether characters are a value of a type. -/
inductive IsValue : ValueType → List Char → Prop
  | null : IsValue .null ['n', 'u', 'l', 'l']
  | boolean (b : Bool) : IsValue .boolean (boolWord b)
  | number {cs : List Char} (h : IsNumber cs) : IsValue .number cs
  | string {cs : List Char} (h : IsString cs) : IsValue .string cs
  | array {inside : List Char} (elements : List Element)
    (hspaced : ∀ e ∈ elements, e.IsSpaced)
    (hvalues : ∀ e ∈ elements, IsValue e.type e.text)
    (hinside : IsInside (elements.map Element.spelling) inside) :
    IsValue .array ('[' :: inside ++ [']'])
  | object {inside : List Char} (members : List Member)
    (hkeyed : ∀ m ∈ members, m.IsKeyed)
    (hvalues : ∀ m ∈ members, IsValue m.value.type m.value.text)
    (hinside : IsInside (members.map Member.spelling) inside) :
    IsValue .object ('\x7b' :: inside ++ ['\x7d'])

/-- Whether a text is an array of some elements, with white space around it. -/
structure HoldsArray (elements : List Element) (text : List Char) : Prop where
  spaced : ∀ e ∈ elements, e.IsSpaced
  values : ∀ e ∈ elements, IsValue e.type e.text
  spelt : ∃ before inside after, IsSpaces before ∧ IsInside (elements.map Element.spelling) inside ∧
    IsSpaces after ∧ text = before ++ '[' :: inside ++ ']' :: after

/-- Whether a text is an object of some members, with white space around it. -/
structure HoldsObject (members : List Member) (text : List Char) : Prop where
  keyed : ∀ m ∈ members, m.IsKeyed
  values : ∀ m ∈ members, IsValue m.value.type m.value.text
  spelt : ∃ before inside after, IsSpaces before ∧ IsInside (members.map Member.spelling) inside ∧
    IsSpaces after ∧ text = before ++ '\x7b' :: inside ++ '\x7d' :: after

end GoEnum.Json

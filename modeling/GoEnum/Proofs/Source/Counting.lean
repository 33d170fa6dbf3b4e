/-
  The numbers that a const block gives its constants, and the integer type that
  has to hold them.

  The const block counts its lines from zero, so `n` constants get the numbers
  below `n`. An integer type of so many bits holds them all just if `n` is not
  greater than its capacity (`represents_below_iff`). How many values there may be
  is checked nowhere: a request with too many of them for its type is accepted and
  gives a file (`numbersFit_iff`).
-/
import GoEnum.Proofs.Lexeme.SmallLetters
import GoEnum.Proofs.Request
import GoEnum.Proofs.Source.IntegerTables
import GoEnum.Proofs.Source.Marker
import Mathlib.Algebra.Group.Int.Defs
import Mathlib.Algebra.Group.Nat.Defs
import Mathlib.Data.List.Enum

namespace GoEnum.Source

open Text Lexeme Naming

/-! ### Integer types -/

/-- An integer type: whether it has negative numbers, and the bits it takes. -/
structure IntegerFormat where
  /-- Whether one bit is for the sign. -/
  signed : Bool
  /-- The number of bits. -/
  bits : Nat
deriving Repr, DecidableEq

namespace IntegerFormat

/-- The integer types that can be named. The three whose size depends on the machine take 64
bits. -/
def table : List (String × IntegerFormat) := [
  ("int", ⟨true, 64⟩), ("int8", ⟨true, 8⟩), ("int16", ⟨true, 16⟩), ("int32", ⟨true, 32⟩),
  ("int64", ⟨true, 64⟩), ("uint", ⟨false, 64⟩), ("uint8", ⟨false, 8⟩), ("uint16", ⟨false, 16⟩),
  ("uint32", ⟨false, 32⟩), ("uint64", ⟨false, 64⟩), ("uintptr", ⟨false, 64⟩),
  ("byte", ⟨false, 8⟩), ("rune", ⟨true, 32⟩)]

/-- The integer type of a name. -/
def named? (type : String) : Option IntegerFormat :=
  table.lookup type

/-- Whether an integer type has a number among its values. -/
def Represents (format : IntegerFormat) (n : Int) : Prop :=
  if format.signed then -2 ^ (format.bits - 1) ≤ n ∧ n < 2 ^ (format.bits - 1)
  else 0 ≤ n ∧ n < 2 ^ format.bits

/-- How many numbers, from zero on, an integer type has among its values. -/
def capacity (format : IntegerFormat) : Nat :=
  if format.signed then 2 ^ (format.bits - 1) else 2 ^ format.bits

theorem represents_natCast_iff {format : IntegerFormat} {n : Nat} :
    format.Represents n ↔ n < format.capacity := by
  unfold Represents capacity
  split
  · have hpow : ((2 ^ (format.bits - 1) : Nat) : Int) = 2 ^ (format.bits - 1) := by push_cast; rfl
    omega
  · have hpow : ((2 ^ format.bits : Nat) : Int) = 2 ^ format.bits := by push_cast; rfl
    omega

/-- The numbers below `n` are represented just if there are not more of them than the type has. -/
theorem represents_below_iff {format : IntegerFormat} {n : Nat} :
    (∀ i < n, format.Represents i) ↔ n ≤ format.capacity := by
  simp only [represents_natCast_iff]
  constructor
  · intro h
    by_contra hlong
    exact Nat.lt_irrefl _ (h format.capacity (Nat.lt_of_not_le hlong))
  · intro h i hi
    exact Nat.lt_of_lt_of_le hi h

/-- Each integer type that can be named is in the table. -/
theorem exists_named? : ∀ type ∈ integerTypes, ∃ format, named? type = some format := by
  have hall : ∀ type ∈ integerTypes, (named? type).isSome = true := by decide
  exact fun type htype => Option.isSome_iff_exists.mp (hall type htype)

end IntegerFormat

/-! ### Readers -/

/-- The constant on a line that names nothing else; its type and its number follow from the line
before it. -/
def bareConstant? (line : String) : Option String :=
  (stripStart? "\t" line).filter fun s => s.toList.all (!separatesWords ·)

/-- The constants of a const block that counts constants of a type, with their numbers: the first
line says what is counted, and the others go on. -/
def countedFrom? (name : String) : List String → Option (List (String × Nat))
  | [] => some []
  | first :: others => do
    let constant ← unwrap? "\t" (" " ++ name ++ " = iota") first
    let constants ← others.mapM bareConstant?
    return (constant :: constants).zipIdx

/-- The constants of a type in a text, with their numbers. -/
def numbered? (name text : String) : Option (List (String × Nat)) :=
  (constBlock? text).bind (countedFrom? name)

/-- The type that underlies a declared type. -/
def underlying? (name text : String) : Option String :=
  (lines text).findSome? (stripStart? ("type " ++ name ++ " "))

section

variable {name : String} {values : List String}

theorem countedFrom?_countedLines
    (h : ∀ value ∈ values, isIdentifier (constant value) = true) :
    countedFrom? name (IntegerEnum.countedLines name values) =
      some (values.map constant).zipIdx := by
  cases values with
  | nil => rfl
  | cons value values =>
    obtain ⟨-, hvalues⟩ := List.forall_mem_cons.mp h
    have hlines : IntegerEnum.countedLines name (value :: values) =
        ("\t" ++ constant value ++ (" " ++ name ++ " = iota")) ::
          values.map fun v => "\t" ++ constant v := by
      simp [IntegerEnum.countedLines, List.mapIdx_cons, IntegerEnum.mapIdx_const,
        String.append_assoc]
    have hbare : (values.map fun v => "\t" ++ constant v).mapM bareConstant? =
        some (values.map constant) := by
      apply mapM_map_eq_some
      intro v hv
      have hword : ∀ c ∈ (constant v).toList, separatesWords c = false :=
        fun c hc => separatesWords_of_isIdentifier (hvalues v hv) hc
      rw [bareConstant?, stripStart?_append]
      simpa [Option.filter] using hword
    rw [hlines, countedFrom?, unwrap?_append, hbare]
    rfl

/-- A line that does not start like what is looked for. -/
theorem stripStart?_eq_none {c : Char} {cs : List Char} {line : String}
    (h : line.toList.head? ≠ some c) : stripStart? (String.ofList (c :: cs)) line = none := by
  rw [stripStart?, String.toList_ofList]
  cases hline : line.toList with
  | nil => rfl
  | cons d ds =>
    have hd : (c == d) = false := by
      refine beq_false_of_ne ?_
      rintro rfl
      exact h (by simp [hline])
    simp [List.isPrefixOf?, hd]

/-- The declaration of the type comes before any other line that starts with its keyword. -/
theorem underlying?_eq_some {rest backedBy underlying : String} {after : List (List String)}
    (hlines : header "" :: lines rest =
      fileLines (preamble "" name backedBy underlying ++ after) ++ [""]) :
    underlying? name rest = some underlying := by
  have hopening : "type " ++ name ++ " " =
      String.ofList ('t' :: ("ype ".toList ++ name.toList ++ [' '])) := by
    simp [← String.toList_inj]
  have hnone : ∀ l : String, l.toList.head? ≠ some 't' →
      stripStart? ("type " ++ name ++ " ") l = none := by
    intro l hl
    rw [hopening]
    exact stripStart?_eq_none hl
  -- The sections before the declaration of the type have no line that starts with its letter.
  have hbefore : ([marker "", packageClause name, importGroup].flatMap (· ++ [""])).findSome?
      (stripStart? ("type " ++ name ++ " ")) = none := by
    rw [List.findSome?_eq_none_iff]
    intro l hl
    apply hnone
    have himports : ∀ k ∈ importGroup, k.toList.head? ≠ some 't' := by decide
    simp only [List.mem_flatMap, List.mem_cons, List.not_mem_nil, or_false, List.mem_append] at hl
    obtain ⟨s, rfl | rfl | rfl, hl | rfl⟩ := hl
    · obtain rfl := List.mem_singleton.mp hl
      simp
    · decide
    · obtain rfl := List.mem_singleton.mp hl
      simp
    · decide
    · exact himports l hl
    · decide
  have hfound : (header "" :: lines rest).findSome? (stripStart? ("type " ++ name ++ " ")) =
      some underlying := by
    have hsections : preamble "" name backedBy underlying ++ after =
        [marker "", packageClause name, importGroup] ++
          typeDeclaration name backedBy underlying :: after := rfl
    rw [hlines, hsections, fileLines_append_cons, List.append_assoc, List.append_assoc,
      List.findSome?_append, hbefore, Option.none_or, typeDeclaration, List.cons_append,
      List.findSome?_cons, hnone _ (by simp), List.cons_append, List.findSome?_cons,
      stripStart?_append]
  rw [List.findSome?_cons, hnone _ (by decide)] at hfound
  exact hfound

/-- The const block stands below the header. -/
theorem constBlock?_eq_below {rest : String} :
    constBlock? (header "" ++ "\n" ++ rest) = constBlock? rest := by
  rw [constBlock?, constBlock?, lines_line_append (by decide), between?, between?,
    List.dropWhile_cons_of_pos (by decide)]

/-- What is read of the type and of the constants below the header of a file. -/
theorem counted_below_header {backing : Option String} {acceptEmpty : Bool} {rest : String}
    (hbacking : (Kind.int backing).IsListed) (h : Compatible name (.int backing) values)
    (hrest : remainder? ⟨.int backing, name, values⟩ acceptEmpty = some rest) :
    underlying? name rest = some (Kind.int backing).goType ∧
      numbered? name rest = some (values.map constant).zipIdx := by
  obtain ⟨sections, hsections, hlines⟩ := header_cons_lines hbacking h hrest
  obtain rfl := Option.some.inj hsections
  constructor
  · exact underlying?_eq_some hlines
  · rw [← lines_line_append (by decide)] at hlines
    rw [numbered?, ← constBlock?_eq_below, IntegerEnum.constBlock?_of_lines hlines]
    exact countedFrom?_countedLines h.identifiers

end

/-! ### Requests -/

theorem exists_format {backing : Option String} (h : (Kind.int backing).IsListed) :
    ∃ format, IntegerFormat.named? (Kind.int backing).goType = some format := by
  cases backing with
  | none => exact IntegerFormat.exists_named? "int" (by decide)
  | some backing => exact IntegerFormat.exists_named? backing h

/-- The file of an accepted request for integers gives its constants the numbers from zero on, and
the integer type of the request holds them all just if there are not more values than it has
numbers. -/
theorem numbersFit_iff {target : Path} {acceptEmpty : Bool} {positional : List String}
    {request : Request} {backing : Option String}
    (haccepted : Request.ofArguments target acceptEmpty positional = .ok request)
    (hkind : request.enumeration.kind = .int backing) (commandLine : String) (flag : Bool) :
    ∃ rest format,
      Listing.render? ⟨commandLine, request.enumeration, flag⟩ =
        some (header commandLine ++ "\n" ++ rest) ∧
      underlying? request.enumeration.name rest = some (Kind.int backing).goType ∧
      IntegerFormat.named? (Kind.int backing).goType = some format ∧
      numbered? request.enumeration.name rest =
        some (request.enumeration.values.map constant).zipIdx ∧
      ((∀ c ∈ (request.enumeration.values.map constant).zipIdx, format.Represents c.2) ↔
        request.enumeration.values.length ≤ format.capacity) := by
  obtain ⟨token, name, kind, values, -, -, hparse, hcompatible, rfl⟩ :=
    Request.ofArguments_eq_ok_iff.mp haccepted
  obtain rfl : kind = .int backing := hkind
  have hlisted := Kind.isListed_of_parse hparse
  obtain ⟨format, hformat⟩ := exists_format hlisted
  obtain ⟨rest, hrest⟩ : ∃ rest, remainder? ⟨.int backing, name, values⟩ flag = some rest :=
    ⟨_, rfl⟩
  obtain ⟨hunderlying, hnumbered⟩ := counted_below_header hlisted hcompatible hrest
  refine ⟨rest, format, ?_, hunderlying, hformat, hnumbered, ?_⟩
  · rw [render?_eq, hrest]
    rfl
  · -- The numbers are the positions of the values.
    rw [← IntegerFormat.represents_below_iff]
    simp only [List.forall_mem_zipIdx, List.length_map, Nat.zero_add]

theorem numbersFit_iff_size : ∃ request rest format,
    Request.ofArguments ⟨Path.dot⟩ false ["int:rune", "Size", "small", "Medium"] = .ok request ∧
    Listing.render? ⟨"go-enum", request.enumeration, true⟩ =
      some (header "go-enum" ++ "\n" ++ rest) ∧
    underlying? "Size" rest = some "rune" ∧
    IntegerFormat.named? "rune" = some format ∧
    numbered? "Size" rest = some [("Small", 0), ("Medium", 1)] ∧
    ∀ c ∈ [("Small", 0), ("Medium", 1)], format.Represents (c.2 : Nat) := by
  have haccepted : Request.ofArguments ⟨Path.dot⟩ false ["int:rune", "Size", "small", "Medium"] =
      .ok ⟨⟨Path.dot⟩, false, ⟨.int "rune", "Size", ["small", "Medium"]⟩⟩ := by decide
  obtain ⟨rest, format, hrender, htype, hformat, hnumbered, hfit⟩ :=
    numbersFit_iff haccepted rfl "go-enum" true
  have hnumbers : (["small", "Medium"].map constant).zipIdx = [("Small", 0), ("Medium", 1)] := by
    decide
  have hcapacity : ∀ format, IntegerFormat.named? "rune" = some format → 2 ≤ format.capacity := by
    decide
  rw [hnumbers] at hnumbered hfit
  exact ⟨_, rest, format, haccepted, hrender, htype, hformat, hnumbered,
    hfit.mpr (hcapacity format hformat)⟩

/-! ### Too many values -/

/-- As many values as are wanted, each with its position in its name. -/
def positionValues (n : Nat) : List String :=
  (List.range n).map fun i => "V" ++ toString i

theorem constant_position (i : Nat) : constant ("V" ++ toString i) = "V" ++ toString i := by
  have hcapital : toCapital 'V' = ['V'] := by decide
  rw [constant, capitalize, String.toList_append, show "V".toList = ['V'] from rfl,
    List.singleton_append, capitalizeFirst, hcapital, List.singleton_append, ← String.toList_inj]
  simp

theorem isIdentifier_position (i : Nat) : isIdentifier ("V" ++ toString i) = true := by
  refine isIdentifier_append (by decide) fun c hc => ?_
  rw [Nat.toString_eq_repr, Nat.toList_repr] at hc
  have hdigit := Nat.isDigit_of_mem_toDigits (by decide) (by decide) hc
  have hbounds : 48 ≤ c.toNat ∧ c.toNat ≤ 57 := by
    simpa [Char.isDigit, UInt32.le_iff_toNat_le] using hdigit
  rw [isWordChar_ascii (by omega), Char.isAlphanum, hdigit, Bool.or_true, Bool.or_true]

/-- Any number of values can be used with the name of one type. -/
theorem compatible_positionValues (n : Nat) :
    Compatible "E" (.int "int8") (positionValues n) := by
  have hdeclared : ∀ s ∈ declaredNames "E" (.int "int8"), s.toList.head? ≠ some 'V' := by
    decide
  have hconstants : (positionValues n).map constant = positionValues n := by
    rw [positionValues, List.map_map]
    exact List.map_congr_left fun i _ => constant_position i
  have hmem : ∀ value ∈ positionValues n, ∃ i : Nat, value = "V" ++ toString i := by
    intro value hvalue
    obtain ⟨i, -, rfl⟩ := List.mem_map.mp hvalue
    exact ⟨i, rfl⟩
  constructor
  · decide
  · intro value hvalue
    obtain ⟨i, rfl⟩ := hmem value hvalue
    rw [constant_position]
    exact isIdentifier_position i
  · rw [hconstants, positionValues]
    -- Different positions have different digits.
    refine List.Nodup.map ?_ List.nodup_range
    intro i j heq
    have hrepr : i.repr = j.repr := String.append_right_inj "V" |>.mp heq
    have hdigits : Nat.toDigits 10 i = Nat.toDigits 10 j := by
      rw [← Nat.toList_repr, ← Nat.toList_repr, hrepr]
    have hnumbers := congrArg (Nat.ofDigitChars 10 · 0) hdigits
    simpa only [Nat.ofDigitChars_ten_toDigits] using hnumbers
  · intro value hvalue hmem'
    obtain ⟨i, rfl⟩ := hmem value hvalue
    rw [constant_position] at hmem'
    exact hdeclared _ hmem' (by simp)

/-- A request with one value more than `int8` has numbers is accepted, and its last constant does
not fit. -/
theorem not_represents_last : ∃ request rest constants,
    Request.ofArguments ⟨Path.dot⟩ false ("int:int8" :: "E" :: positionValues 129) = .ok request ∧
    Listing.render? ⟨"go-enum", request.enumeration, false⟩ =
      some (header "go-enum" ++ "\n" ++ rest) ∧
    underlying? "E" rest = some "int8" ∧
    IntegerFormat.named? "int8" = some ⟨true, 8⟩ ∧
    numbered? "E" rest = some constants ∧
    ∃ c ∈ constants, c.2 = 128 ∧ ¬IntegerFormat.Represents ⟨true, 8⟩ c.2 := by
  have hcompatible := compatible_positionValues 129
  have hkind : Kind.parse "int:int8" = .ok (.int "int8") := by decide
  have haccepted : Request.ofArguments ⟨Path.dot⟩ false
      ("int:int8" :: "E" :: positionValues 129) =
        .ok ⟨⟨Path.dot⟩, false, ⟨.int "int8", "E", positionValues 129⟩⟩ :=
    Request.ofArguments_eq_ok_iff.mpr ⟨"int:int8", "E", .int "int8", positionValues 129, rfl,
      by simp [positionValues], hkind, hcompatible, rfl⟩
  obtain ⟨rest, hrest⟩ : ∃ rest,
      remainder? ⟨.int "int8", "E", positionValues 129⟩ false = some rest := ⟨_, rfl⟩
  obtain ⟨hunderlying, hnumbered⟩ :=
    counted_below_header (Kind.isListed_of_parse hkind) hcompatible hrest
  refine ⟨_, rest, _, haccepted, ?_, hunderlying, by decide, hnumbered, ?_⟩
  · rw [render?_eq, hrest]
    rfl
  · have hlast : ((positionValues 129).map constant).zipIdx[128]? =
        some (constant ("V" ++ toString 128), 128) := by
      simp [positionValues]
    refine ⟨_, List.mem_of_getElem? hlast, rfl, ?_⟩
    rw [IntegerFormat.represents_natCast_iff]
    decide

end GoEnum.Source

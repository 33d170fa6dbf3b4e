/-
  What naming the integer type adds to a file.

  An integer enumeration either leaves its integer type open, and then it is
  `int`, or names it. The two files are the same up to the name of the type in its
  declaration, and the file that names the type goes on with the two conversions,
  whose text is written out here (`conversionText`). So the shorter file, if its type
  is named `int`, is the beginning of the longer one (`named_type_extends_file`).
-/
import GoEnum.Proofs.Source.IntegerEnum

namespace GoEnum.Source.IntegerEnum

open Naming

variable (commandLine name : String) (acceptEmpty : Bool) (values : List String)
  (backing : Option String)

/-- The listing of an integer enumeration. -/
def listing : Listing :=
  ⟨commandLine, ⟨.int backing, name, values⟩, acceptEmpty⟩

/-! ### Before the type -/

/-- The text before the line that declares the type. -/
def textBeforeType : String :=
  "\n".intercalate
    ["// Code generated by " ++ commandLine ++ "; DO NOT EDIT.",
     "",
     "package " ++ packageName name,
     "",
     "import (",
     "\t\"errors\"",
     "\t\"fmt\"",
     ")",
     "",
     "// " ++ name ++ " is an integer-backed enumeration.",
     ""]

theorem fileText_beforeType :
    fileText [marker commandLine, packageClause name, importGroup] ++ "\n\n"
        ++ ("// " ++ name ++ " is an integer-backed enumeration.\n") =
      textBeforeType commandLine name := by
  have himports : importGroup = ["import (", "\t\"errors\"", "\t\"fmt\"", ")"] := by decide
  have hlines : fileLines [marker commandLine, packageClause name, importGroup] =
      ["// Code generated by " ++ commandLine ++ "; DO NOT EDIT.", "",
        "package " ++ packageName name, "", "import (", "\t\"errors\"", "\t\"fmt\"", ")"] := by
    rw [himports]
    rfl
  rw [fileText, hlines, textBeforeType]
  generalize packageName name = package
  simp [String.ext_iff]

theorem intercalate_typeDeclaration (name underlying : String) :
    "\n".intercalate (typeDeclaration name "an integer-backed" underlying) =
      "// " ++ name ++ " is an integer-backed enumeration.\n"
        ++ ("type " ++ name ++ " " ++ underlying) := by
  rw [typeDeclaration, String.intercalate_cons_of_ne_nil (by simp), String.intercalate_singleton]
  simp [String.ext_iff]

/-! ### After the type -/

/-- The sections after the declaration of the type, up to the conversions. -/
def sectionsAfterType : List (List String) :=
  [group "const" (constantLines name values),
   tableDeclaration name values,
   errorDeclaration name "a string or number",
   valuesDeclaration name values,
   stringDeclaration name,
   validityDeclaration name,
   parseDeclaration name acceptEmpty values,
   marshalDeclaration name "%d" (receiver name) (tableEntry name),
   unmarshalDeclaration name]

/-- They begin with the constants. -/
theorem fileText_sectionsAfterType :
    ∃ rest, "\n\n" ++ fileText (sectionsAfterType name acceptEmpty values) =
      "\n\nconst (\n" ++ rest := by
  have hopening : "\n\n" ++ ("const" ++ " (" ++ "\n") = "\n\nconst (\n" := by decide
  rw [fileText, sectionsAfterType, fileLines_cons, group, enclosed, List.cons_append,
    String.intercalate_cons_of_ne_nil (by simp), ← String.append_assoc, hopening]
  exact ⟨_, rfl⟩

/-! ### The conversions -/

/-- The text of the conversions: the method that gives the underlying integer, and the function
that converts from it. -/
def conversionText (name backing : String) : String :=
  "\n".intercalate
    ["// " ++ backingMethod backing ++ " returns the underlying " ++ backing ++ " value of "
       ++ receiver name ++ ".",
     "func (" ++ receiver name ++ " " ++ name ++ ") " ++ backingMethod backing ++ "() " ++ backing
       ++ " \x7b",
     "\treturn " ++ backing ++ "(" ++ receiver name ++ ")",
     "\x7d",
     "",
     "// " ++ fromFunction name backing ++ " converts v into a " ++ name
       ++ ", rejecting undeclared values.",
     "func " ++ fromFunction name backing ++ "(v " ++ backing ++ ") (" ++ name ++ ", error) \x7b",
     "\tconverted := " ++ name ++ "(v)",
     "\tif !converted.IsValid() \x7b",
     "\t\treturn 0, fmt.Errorf(\"%w: %d\", " ++ invalidError name ++ ", v)",
     "\t\x7d",
     "\treturn converted, nil",
     "\x7d"]

theorem fileText_conversions (name backing : String) :
    fileText (conversions name (some backing)) = conversionText name backing := by
  have hlines : fileLines (conversions name (some backing)) =
      backingDeclaration name backing ++ "" :: fromDeclaration name backing := by
    rw [conversions, fileLines_cons]
    simp
  rw [fileText, hlines, conversionText]
  refine congrArg ("\n").intercalate ?_
  unfold backingDeclaration fromDeclaration guardValid method invalidValue block enclosed indent
  -- Only the pieces between the names are put together in another way.
  generalize receiver name = self
  generalize backingMethod backing = accessor
  generalize fromFunction name backing = converter
  generalize invalidError name = invalid
  simp [String.ext_iff]

/-! ### The file -/

/-- The sections of a file, cut at the line that declares the type and before the conversions. -/
theorem body?_listing :
    (listing commandLine name acceptEmpty values backing).body? =
      some (textBeforeType commandLine name
        ++ ("type " ++ name ++ " " ++ (Kind.int backing).goType)
        ++ ("\n\n" ++ fileText
          (sectionsAfterType name acceptEmpty values ++ conversions name backing))) := by
  have hparts : sections commandLine name backing acceptEmpty values =
      [marker commandLine, packageClause name, importGroup] ++
        typeDeclaration name "an integer-backed" (Kind.int backing).goType ::
          (sectionsAfterType name acceptEmpty values ++ conversions name backing) := rfl
  have hbefore : fileLines [marker commandLine, packageClause name, importGroup] ≠ [] :=
    fileLines_ne_nil (by simp [marker]) _
  have hrest : fileLines (sectionsAfterType name acceptEmpty values ++ conversions name backing)
      ≠ [] := fileLines_ne_nil (by simp [group, enclosed]) _
  have hbody : (listing commandLine name acceptEmpty values backing).body? =
      some (fileText (sections commandLine name backing acceptEmpty values)) := rfl
  rw [hbody, hparts, fileText_append_cons hbefore (by simp [typeDeclaration]) hrest,
    intercalate_typeDeclaration, ← fileText_beforeType]
  simp only [String.append_assoc]

/-- The rendered text is the raw text with a line feed at its end. -/
theorem render?_listing :
    (listing commandLine name acceptEmpty values backing).render? =
      (listing commandLine name acceptEmpty values backing).body?.map (· ++ "\n") := by
  obtain ⟨s, hs, hlast⟩ :=
    exists_getLast?_sections commandLine name backing acceptEmpty values
  exact congrArg some (endLine_fileText hs hlast (by decide) (by decide))

theorem prefix_append_and_ne (s : String) {t : String} (h : t ≠ "") :
    s.toList <+: (s ++ t).toList ∧ s ≠ s ++ t := by
  constructor
  · rw [String.toList_append]
    exact List.prefix_append _ _
  · intro heq
    exact h (String.append_right_inj s |>.mp (String.append_empty.trans heq)).symm

/-- Whatever the command line, the name and the values, naming the integer type replaces the type
in the line that declares the enumeration and puts the two conversions at the end, and changes
nothing else. So the file for `int` is a proper prefix of the one for `int:int`. In both, what is
rendered is the raw text and one line feed. -/
theorem named_type_extends_file (name : String) (acceptEmpty : Bool) (values : List String) :
    ∃ rest, ∀ commandLine,
      ((listing commandLine name acceptEmpty values none).body? =
          some (textBeforeType commandLine name ++ ("type " ++ name ++ " " ++ "int")
            ++ "\n\nconst (\n" ++ rest) ∧
        ∀ backing, (listing commandLine name acceptEmpty values (some backing)).body? =
          some (textBeforeType commandLine name ++ ("type " ++ name ++ " " ++ backing)
            ++ "\n\nconst (\n" ++ rest ++ ("\n\n" ++ conversionText name backing))) ∧
      (∃ text extended, (listing commandLine name acceptEmpty values none).body? = some text ∧
        (listing commandLine name acceptEmpty values (some "int")).body? = some extended ∧
        text.toList <+: extended.toList ∧ text ≠ extended) ∧
      ∀ backing, ∃ text, (listing commandLine name acceptEmpty values backing).body? = some text ∧
        (listing commandLine name acceptEmpty values backing).render? = some (text ++ "\n") := by
  obtain ⟨rest, hrest⟩ := fileText_sectionsAfterType name acceptEmpty values
  refine ⟨rest, fun commandLine => ?_⟩
  have hopen : (listing commandLine name acceptEmpty values none).body? =
      some (textBeforeType commandLine name ++ ("type " ++ name ++ " " ++ "int")
        ++ "\n\nconst (\n" ++ rest) := by
    rw [body?_listing, conversions, List.append_nil, hrest, ← String.append_assoc]
    rfl
  have hnamed : ∀ backing, (listing commandLine name acceptEmpty values (some backing)).body? =
      some (textBeforeType commandLine name ++ ("type " ++ name ++ " " ++ backing)
        ++ "\n\nconst (\n" ++ rest ++ ("\n\n" ++ conversionText name backing)) := by
    intro backing
    have hafter : fileLines (sectionsAfterType name acceptEmpty values) ≠ [] :=
      fileLines_ne_nil (by simp [group, enclosed]) _
    have hconversions : fileLines (conversions name (some backing)) ≠ [] :=
      fileLines_ne_nil (by simp [backingDeclaration]) _
    have hparts : "\n\n" ++ fileText (sectionsAfterType name acceptEmpty values ++
        conversions name (some backing)) =
          "\n\n" ++ fileText (sectionsAfterType name acceptEmpty values)
            ++ ("\n\n" ++ conversionText name backing) := by
      rw [fileText_append hafter hconversions, fileText_conversions]
      simp only [String.append_assoc]
    rw [body?_listing, hparts, hrest]
    simp only [String.append_assoc]
    rfl
  refine ⟨⟨hopen, hnamed⟩, ⟨_, _, hopen, hnamed "int", prefix_append_and_ne _ ?_⟩, ?_⟩
  · simp [conversionText, String.ext_iff]
  · intro backing
    have hraw := body?_listing commandLine name acceptEmpty values backing
    refine ⟨_, hraw, ?_⟩
    rw [render?_listing, hraw, Option.map_some]

/-- The two files for levels, where the longer one counts them in bytes. -/
theorem named_type_extends_file_level :
    ∃ rest,
      (listing "goenum Level" "Level" false ["low", "high"] none).body? = some
        ("// Code generated by goenum Level; DO NOT EDIT.\n\n"
          ++ "package level\n\nimport (\n\t\"errors\"\n\t\"fmt\"\n)\n\n"
          ++ "// Level is an integer-backed enumeration.\ntype Level int\n\nconst (\n" ++ rest) ∧
      (listing "goenum Level" "Level" false ["low", "high"] (some "uint8")).body? = some
        ("// Code generated by goenum Level; DO NOT EDIT.\n\n"
          ++ "package level\n\nimport (\n\t\"errors\"\n\t\"fmt\"\n)\n\n"
          ++ "// Level is an integer-backed enumeration.\ntype Level uint8\n\nconst (\n" ++ rest
          ++ ("\n\n// Uint8 returns the underlying uint8 value of l.\n"
            ++ "func (l Level) Uint8() uint8 \x7b\n\treturn uint8(l)\n\x7d\n\n"
            ++ "// LevelFromUint8 converts v into a Level, rejecting undeclared values.\n"
            ++ "func LevelFromUint8(v uint8) (Level, error) \x7b\n\tconverted := Level(v)\n"
            ++ "\tif !converted.IsValid() \x7b\n"
            ++ "\t\treturn 0, fmt.Errorf(\"%w: %d\", ErrInvalidLevel, v)\n\t\x7d\n"
            ++ "\treturn converted, nil\n\x7d")) := by
  obtain ⟨rest, hrest⟩ := named_type_extends_file "Level" false ["low", "high"]
  obtain ⟨hopen, hnamed⟩ := (hrest "goenum Level").1
  have hbefore : textBeforeType "goenum Level" "Level" =
      "// Code generated by goenum Level; DO NOT EDIT.\n\n"
        ++ "package level\n\nimport (\n\t\"errors\"\n\t\"fmt\"\n)\n\n"
        ++ "// Level is an integer-backed enumeration.\n" := by decide +kernel
  refine ⟨rest, ?_, ?_⟩
  · rw [hopen, hbefore]
    rfl
  · have hconversions : conversionText "Level" "uint8" =
        "// Uint8 returns the underlying uint8 value of l.\n"
          ++ "func (l Level) Uint8() uint8 \x7b\n\treturn uint8(l)\n\x7d\n\n"
          ++ "// LevelFromUint8 converts v into a Level, rejecting undeclared values.\n"
          ++ "func LevelFromUint8(v uint8) (Level, error) \x7b\n\tconverted := Level(v)\n"
          ++ "\tif !converted.IsValid() \x7b\n"
          ++ "\t\treturn 0, fmt.Errorf(\"%w: %d\", ErrInvalidLevel, v)\n\t\x7d\n"
          ++ "\treturn converted, nil\n\x7d" := by decide +kernel
    rw [hnamed "uint8", hbefore, hconversions]
    rfl

end GoEnum.Source.IntegerEnum

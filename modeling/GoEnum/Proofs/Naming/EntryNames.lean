/-
  The names of the directory and the file that are made.

  Small letters bring in no character below `a`, so the package's name has none of the
  characters that mean something in a path: neither slash nor zero nor dot. It names
  one entry of a directory, and so does the name of the file.
-/
import GoEnum.Naming
import GoEnum.Proofs.Disk.Path
import GoEnum.Proofs.Lexeme.Identifier
import GoEnum.Proofs.Text.LetterCase
import GoEnum.Proofs.Text.Utf8

namespace GoEnum.Naming

open Text Lexeme GoEnum.Path

/-- A text names an entry if it has no slash and no zero, and is not empty or one of the names that
are always there. -/
theorem isEntryName_encode {s : String} (hempty : s ≠ "") (hslash : '/' ∉ s.toList)
    (hzero : '\x00' ∉ s.toList) (hdot : s ≠ ".") (hdotDot : s ≠ "..") :
    IsEntryName (Utf8.encode s) where
  ne_nil := mt Utf8.encode_eq_nil_iff.mp hempty
  slash_not_mem := fun h => hslash (Utf8.mem_of_mem_encode h (by decide))
  zero_not_mem := fun h => hzero (Utf8.mem_of_mem_encode h (by decide))
  ne_dot := fun h => hdot (Utf8.encode_injective (h.trans (by decide)))
  ne_dotDot := fun h => hdotDot (Utf8.encode_injective (h.trans (by decide)))

variable {name : String}

/-- What is below `a` and in no identifier is not in the name of a package. -/
theorem not_mem_packageName (h : isIdentifier name = true) {c : Char} (hc : c.toNat < 0x61)
    (hword : isWordChar c = false) : c ∉ (packageName name).toList := by
  intro hmem
  rcases eq_or_le_of_mem_lowercase hmem with ⟨hname, -⟩ | hle
  · exact not_mem_of_isIdentifier h hword hname
  · omega

theorem packageName_ne_empty (h : isIdentifier name = true) : packageName name ≠ "" := by
  have hname : name.toList ≠ [] := toList_ne_nil_of_isIdentifier h
  have hlength : name.length ≤ (packageName name).length := length_le_length_lowercase name
  rw [← String.length_toList] at hlength
  have hpos := List.length_pos_iff.mpr hname
  intro hempty
  rw [hempty, String.length_empty] at hlength
  omega

theorem slash_not_mem_packageName (h : isIdentifier name = true) :
    '/' ∉ (packageName name).toList :=
  not_mem_packageName h (by decide) (isWordChar_ascii (by decide))

theorem zero_not_mem_packageName (h : isIdentifier name = true) :
    '\x00' ∉ (packageName name).toList :=
  not_mem_packageName h (by decide) (isWordChar_ascii (by decide))

theorem dot_not_mem_packageName (h : isIdentifier name = true) :
    '.' ∉ (packageName name).toList :=
  not_mem_packageName h (by decide) (isWordChar_ascii (by decide))

/-- The package names an entry of the target directory. -/
theorem isEntryName_packageName (h : isIdentifier name = true) :
    IsEntryName (Utf8.encode (packageName name)) := by
  have hdot := dot_not_mem_packageName h
  refine isEntryName_encode (packageName_ne_empty h) (slash_not_mem_packageName h)
    (zero_not_mem_packageName h) ?_ ?_
  · intro heq
    rw [heq] at hdot
    exact hdot (by decide)
  · intro heq
    rw [heq] at hdot
    exact hdot (by decide)

/-- The file's name is one of an entry of the package's directory. -/
theorem isEntryName_fileName (h : isIdentifier name = true) :
    IsEntryName (Utf8.encode (fileName name)) := by
  have hlength : (fileName name).length = (packageName name).length + 7 := by
    rw [fileName, String.length_append]
    rfl
  refine isEntryName_encode ?_ ?_ ?_ ?_ ?_
  · intro heq
    simp [heq] at hlength
  · rw [fileName, String.toList_append, List.mem_append, not_or]
    exact ⟨slash_not_mem_packageName h, by decide⟩
  · rw [fileName, String.toList_append, List.mem_append, not_or]
    exact ⟨zero_not_mem_packageName h, by decide⟩
  · intro heq
    rw [heq] at hlength
    have hdot : ".".length = 1 := rfl
    omega
  · intro heq
    rw [heq] at hlength
    have hdotDot : "..".length = 2 := rfl
    omega

end GoEnum.Naming

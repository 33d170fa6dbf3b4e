/-
  Paths of what is below a directory.

  Joining a path and the name of an entry puts the name after the path's `stem`, the
  path without a slash at its end. So the joined path goes through the names of the
  path and then the entry's (`names_join`), and it is the parent of what is joined to it
  in turn (`parent?_join_join`).
-/
import GoEnum.Disk.FileTree
import Mathlib.Data.List.Basic

namespace GoEnum.Path

variable {p : Path} {name file : List UInt8}

/-- Whether some bytes can be the name of an entry: they go through no other name, end no path and
lead neither to the directory itself nor to the one above. -/
structure IsEntryName (name : List UInt8) : Prop where
  /-- A name has a byte. -/
  ne_nil : name ≠ []
  /-- It is one name, -/
  slash_not_mem : slash ∉ name
  /-- all of it, -/
  zero_not_mem : 0 ∉ name
  /-- and neither of the names that are always there. -/
  ne_dot : name ≠ dot
  /-- See `ne_dot`. -/
  ne_dotDot : name ≠ dotDot

theorem IsEntryName.isIdle_eq_false (h : IsEntryName name) : isIdle name = false := by
  simp [isIdle, h.ne_nil, h.ne_dot]

/-! ### Segments -/

theorem splitAtSlashes_eq_splitOn (bs : List UInt8) : splitAtSlashes bs = bs.splitOn slash := by
  induction bs with
  | nil => rfl
  | cons b bs ih =>
    rw [List.splitOn_cons_eq_if_modifyHead, splitAtSlashes, ih]
    simp only [beq_iff_eq]
    split
    · rfl
    · cases hrest : bs.splitOn slash with
      | nil => exact absurd hrest (List.splitOn_ne_nil slash bs)
      | cons segment segments => rfl

theorem splitAtSlashes_append_slash (bs cs : List UInt8) :
    splitAtSlashes (bs ++ slash :: cs) = splitAtSlashes bs ++ splitAtSlashes cs := by
  rw [splitAtSlashes_eq_splitOn, List.splitOn_append_cons_self, ← splitAtSlashes_eq_splitOn,
    ← splitAtSlashes_eq_splitOn]

theorem splitAtSlashes_of_not_mem {bs : List UInt8} (h : slash ∉ bs) :
    splitAtSlashes bs = [bs] := by
  rw [splitAtSlashes_eq_splitOn, List.splitOn_eq_singleton h]

theorem splitAtSlashes_ne_nil (bs : List UInt8) : splitAtSlashes bs ≠ [] := by
  rw [splitAtSlashes_eq_splitOn]
  exact List.splitOn_ne_nil slash bs

theorem intercalate_splitAtSlashes (bs : List UInt8) :
    [slash].intercalate (splitAtSlashes bs) = bs := by
  rw [splitAtSlashes_eq_splitOn, List.intercalate_splitOn]

/-! ### Joining -/

/-- The bytes of a path without a slash at its end. -/
def stem (p : Path) : List UInt8 :=
  if p.bytes.getLast? = some slash then p.bytes.dropLast else p.bytes

theorem stem_append_slash (h : p.bytes.getLast? = some slash) : p.stem ++ [slash] = p.bytes := by
  rw [stem, if_pos h]
  exact List.dropLast_append_getLast? slash h

theorem bytes_join (h : p.bytes ≠ []) (inner : Path) :
    (p.join inner).bytes = p.stem ++ slash :: inner.bytes := by
  rw [join, if_neg h]
  split
  · rename_i hslash
    rw [← stem_append_slash hslash, List.append_assoc, List.singleton_append]
  · rename_i hslash
    rw [stem, if_neg hslash]

theorem bytes_join_ne_nil (h : p.bytes ≠ []) (inner : Path) : (p.join inner).bytes ≠ [] := by
  rw [bytes_join h]
  simp

/-- Slashes at its end do not matter for the names of a path. -/
theorem filter_splitAtSlashes_stem (p : Path) :
    (splitAtSlashes p.stem).filter (!·.isEmpty) = p.names := by
  unfold names
  by_cases hslash : p.bytes.getLast? = some slash
  · rw [← stem_append_slash hslash, splitAtSlashes_append_slash, List.filter_append]
    simp [splitAtSlashes]
  · rw [stem, if_neg hslash]

/-- The segments of a joined path: those of the stem, and the name. -/
theorem splitAtSlashes_join (h : p.bytes ≠ []) (hname : IsEntryName name) :
    splitAtSlashes (p.join ⟨name⟩).bytes = splitAtSlashes p.stem ++ [name] := by
  rw [bytes_join h, splitAtSlashes_append_slash, splitAtSlashes_of_not_mem hname.slash_not_mem]

/-- A joined path goes through the names of the path and then through the name of the entry. -/
theorem names_join (h : p.bytes ≠ []) (hname : IsEntryName name) :
    (p.join ⟨name⟩).names = p.names ++ [name] := by
  have hkept : [name].filter (!·.isEmpty) = [name] := by simp [hname.ne_nil]
  rw [names, splitAtSlashes_join h hname, List.filter_append, filter_splitAtSlashes_stem, hkept]

theorem isAbsolute_join (h : p.bytes ≠ []) (inner : Path) :
    (p.join inner).isAbsolute = p.isAbsolute := by
  have hhead : (p.stem ++ slash :: inner.bytes).head? = p.bytes.head? := by
    by_cases hslash : p.bytes.getLast? = some slash
    · rw [← List.singleton_append, ← List.append_assoc, stem_append_slash hslash,
        List.head?_append_of_ne_nil _ h]
    · rw [stem, if_neg hslash, List.head?_append_of_ne_nil _ h]
  rw [isAbsolute, isAbsolute, bytes_join h, hhead]

theorem endsInSlash_join (h : p.bytes ≠ []) (hname : IsEntryName name) :
    (p.join ⟨name⟩).endsInSlash = false := by
  have hlast : (p.stem ++ slash :: name).getLast? = name.getLast? := by
    rw [← List.singleton_append, ← List.append_assoc,
      List.getLast?_append_of_ne_nil _ hname.ne_nil]
  rw [endsInSlash, bytes_join h, hlast, Bool.eq_false_iff]
  intro hslash
  exact hname.slash_not_mem (List.mem_of_getLast? (beq_iff_eq.mp hslash))

theorem stem_join (h : p.bytes ≠ []) (hname : IsEntryName name) :
    (p.join ⟨name⟩).stem = (p.join ⟨name⟩).bytes := by
  have hslash := endsInSlash_join h hname
  rw [endsInSlash, beq_eq_false_iff_ne] at hslash
  rw [stem, if_neg hslash]

/-! ### Parents -/

theorem dropIdleEnd_concat {segments : List (List UInt8)} (h : isIdle name = false) :
    dropIdleEnd (segments ++ [name]) = segments ++ [name] := by
  rw [dropIdleEnd, List.reverse_concat, List.dropWhile_cons_of_neg (by simp [h]),
    ← List.reverse_concat, List.reverse_reverse]

/-- The parent of a path whose last two segments are names is what is before the last one. -/
theorem parent?_of_splitAtSlashes {first : List UInt8} {segments : List (List UInt8)}
    (hsegments : splitAtSlashes p.bytes = first :: (segments ++ [name, file]))
    (hname : IsEntryName name) (hfile : IsEntryName file) :
    p.parent? = some ⟨[slash].intercalate (first :: (segments ++ [name]))⟩ := by
  have hsplit : segments ++ [name, file] = (segments ++ [name]) ++ [file] := by simp
  have hkept : dropIdleEnd (segments ++ [name, file]) = (segments ++ [name]) ++ [file] := by
    rw [hsplit, dropIdleEnd_concat hfile.isIdle_eq_false]
  rw [parent?, hsegments]
  dsimp only
  rw [hkept]
  split
  · rename_i hnil
    simp at hnil
  · rw [List.dropLast_concat, dropIdleEnd_concat hname.isIdle_eq_false]
    split
    · rename_i hnil
      simp at hnil
    · rfl

/-- A joined path is the parent of what is joined to it. -/
theorem parent?_join_join (h : p.bytes ≠ []) (hname : IsEntryName name)
    (hfile : IsEntryName file) :
    ((p.join ⟨name⟩).join ⟨file⟩).parent? = some (p.join ⟨name⟩) := by
  obtain ⟨first, segments, hstem⟩ := List.exists_cons_of_ne_nil (splitAtSlashes_ne_nil p.stem)
  have hdirectory : splitAtSlashes (p.join ⟨name⟩).bytes = first :: (segments ++ [name]) := by
    rw [splitAtSlashes_join h hname, hstem, List.cons_append]
  have hsegments : splitAtSlashes ((p.join ⟨name⟩).join ⟨file⟩).bytes =
      first :: (segments ++ [name, file]) := by
    rw [splitAtSlashes_join (bytes_join_ne_nil h _) hfile, stem_join h hname, hdirectory]
    simp
  rw [parent?_of_splitAtSlashes hsegments hname hfile, ← hdirectory, intercalate_splitAtSlashes]

/-- A joined path has a parent. -/
theorem parent?_join_ne_none (h : p.bytes ≠ []) (hname : IsEntryName name) :
    (p.join ⟨name⟩).parent? ≠ none := by
  obtain ⟨first, segments, hstem⟩ := List.exists_cons_of_ne_nil (splitAtSlashes_ne_nil p.stem)
  rw [parent?, splitAtSlashes_join h hname, hstem, List.cons_append]
  dsimp only
  rw [dropIdleEnd_concat hname.isIdle_eq_false]
  split
  · rename_i hnil
    simp at hnil
  · split <;> simp

/-- The directories to be made for a joined path start with it. -/
theorem lineage_join (h : p.bytes ≠ []) (hname : IsEntryName name) :
    ∃ above, (p.join ⟨name⟩).lineage = p.join ⟨name⟩ :: above := by
  obtain ⟨count, hcount⟩ : ∃ count, (p.join ⟨name⟩).bytes.length = count + 1 :=
    Nat.exists_eq_succ_of_ne_zero (mt List.length_eq_zero_iff.mp (bytes_join_ne_nil h _))
  obtain ⟨parent, hparent⟩ := Option.ne_none_iff_exists'.mp (parent?_join_ne_none h hname)
  rw [lineage, hcount, lineageUpTo, hparent]
  exact ⟨_, rfl⟩

end GoEnum.Path

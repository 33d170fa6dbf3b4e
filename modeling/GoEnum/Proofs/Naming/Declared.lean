/-
  No two of the derived names coincide.

  Each pair of names gives an equation between texts that contain the name or its
  small form. The names that every file declares differ in length. The function
  from the integer type may have the length of another name, but has one more
  capital `F`. The table of names may have the length of another name too, and
  differs from it in the first character, since no small form starts with a
  capital, or in the last ones.
-/
import GoEnum.Proofs.Kind
import GoEnum.Proofs.Naming.Check
import GoEnum.Proofs.Text.LetterCase

namespace GoEnum.Naming

/-- The package-level names that files of all kinds declare, the constants apart. -/
def commonNames (name : String) : List String :=
  [name, parseFunction name, valuesFunction name, invalidError name]

/-- The forms of the package-level names of a file, the constants apart. -/
theorem cases_of_mem_declaredNames {name s : String} {kind : Kind}
    (h : s ∈ declaredNames name kind) :
    s ∈ commonNames name ∨ s = namesTable name ∨ ∃ backing, s = fromFunction name backing := by
  unfold declaredNames at h
  rcases List.mem_append.mp h with hcommon | hkind
  · exact Or.inl hcommon
  · match kind, hkind with
    | .int none, htable => exact Or.inr (Or.inl (List.mem_singleton.mp htable))
    | .int (some backing), hmem =>
      rcases List.mem_pair.mp hmem with htable | hfrom
      · exact Or.inr (Or.inl htable)
      · exact Or.inr (Or.inr ⟨backing, hfrom⟩)

/-- What is put before or after the name of the enumeration has four characters or more. -/
theorem four_le_length_of_mem_declaredNames {name s : String} {kind : Kind}
    (h : s ∈ declaredNames name kind) (hne : s ≠ name) : 4 ≤ s.toList.length := by
  rcases cases_of_mem_declaredNames h with hcommon | rfl | ⟨backing, rfl⟩
  · simp only [commonNames, List.mem_cons, List.not_mem_nil, or_false] at hcommon
    rcases hcommon with hname | rfl | rfl | rfl
    · exact absurd hname hne
    · simp [parseFunction]
    · simp [valuesFunction]
    · simp [invalidError]
  · simp [namesTable]
  · simp [fromFunction]
    omega

theorem nodup_commonNames (name : String) : (commonNames name).Nodup := by
  have hlengths : ((commonNames name).map fun s => s.toList.length).Nodup := by
    simp [commonNames, parseFunction, valuesFunction, invalidError]
    omega
  exact List.Nodup.of_map _ hlengths

/-! ### The function from the integer type -/

theorem count_of_mem_commonNames {name s : String} (h : s ∈ commonNames name) :
    s.toList.count 'F' = name.toList.count 'F' := by
  simp only [commonNames, List.mem_cons, List.not_mem_nil, or_false] at h
  rcases h with rfl | rfl | rfl | rfl
  · rfl
  · simp [parseFunction]
  · simp [valuesFunction]
  · simp [invalidError]

theorem fromFunction_not_mem_commonNames (name backing : String) :
    fromFunction name backing ∉ commonNames name := by
  intro h
  have hcount := count_of_mem_commonNames h
  simp [fromFunction] at hcount

/-! ### The table of names -/

/-- What starts with the small form of a name does not start with a capital. -/
theorem toList_namesTable_ne_cons {name : String} (hname : name ≠ "") {c : Char}
    (hc : 0x41 ≤ c.toNat ∧ c.toNat ≤ 0x5A) (cs : List Char) :
    (namesTable name).toList ≠ c :: cs := by
  intro h
  cases hsmall : (Text.lowercase name).toList with
  | nil =>
    have hle := Text.length_le_length_lowercase name
    rw [← String.length_toList (s := Text.lowercase name), hsmall] at hle
    exact hname (String.length_eq_zero_iff.mp (Nat.le_zero.mp hle))
  | cons d ds =>
    rw [namesTable, packageName, String.toList_append, hsmall] at h
    have hd : d = c := (List.cons.inj h).1
    have hmem : d ∈ (Text.lowercase name).toList := by
      rw [hsmall]
      exact List.mem_cons_self
    rcases Text.eq_or_le_of_mem_lowercase hmem with ⟨-, hnot⟩ | hle
    · exact hnot (hd ▸ hc)
    · rw [hd] at hle
      omega

theorem namesTable_not_mem_commonNames {name : String} (hname : name ≠ "") :
    namesTable name ∉ commonNames name := by
  intro h
  simp only [commonNames, List.mem_cons, List.not_mem_nil, or_false] at h
  rcases h with h | h | h | h
  · -- The small form is no shorter than the name, and there is more after it.
    have hlength := congrArg String.length h
    have hle := Text.length_le_length_lowercase name
    simp [namesTable, packageName, ← String.length_toList] at hlength hle
    omega
  · apply toList_namesTable_ne_cons hname (c := 'P') (by decide)
    rw [h, parseFunction, String.toList_append]
    rfl
  · -- One side ends in `Names`, the other in `Values`.
    have hends := congrArg (fun s : String => s.toList.reverse) h
    simp [valuesFunction, namesTable] at hends
  · apply toList_namesTable_ne_cons hname (c := 'E') (by decide)
    rw [h, invalidError, String.toList_append]
    rfl

/-- No integer type ends in `s`, as the name of the table does. -/
theorem getLast?_backingMethod : ∀ backing ∈ integerTypes,
    (backingMethod backing).toList ≠ [] ∧ (backingMethod backing).toList.getLast? ≠ some 's' := by
  decide

theorem namesTable_ne_fromFunction {name backing : String} (h : backing ∈ integerTypes) :
    namesTable name ≠ fromFunction name backing := by
  intro heq
  obtain ⟨hne, hlast⟩ := getLast?_backingMethod backing h
  have hends := congrArg (fun s : String => s.toList.getLast?) heq
  simp only [namesTable, fromFunction, String.toList_append] at hends
  rw [List.getLast?_append_of_ne_nil _ (by decide), List.getLast?_append_of_ne_nil _ hne] at hends
  exact hlast hends.symm

/-! ### All names -/

/-- No two of the package-level names of a file coincide, the constants apart. -/
theorem nodup_declaredNames {name : String} (hname : name ≠ "") {kind : Kind}
    (hkind : kind.IsListed) : (declaredNames name kind).Nodup := by
  have hcommon := nodup_commonNames name
  have htable := namesTable_not_mem_commonNames hname
  match kind with
  | .string => simpa [declaredNames, commonNames] using hcommon
  | .int none =>
    refine List.nodup_append.mpr ⟨hcommon, List.nodup_singleton _, ?_⟩
    intro s hs t ht heq
    rw [List.mem_singleton.mp ht] at heq
    exact htable (heq ▸ hs)
  | .int (some backing) =>
    refine List.nodup_append.mpr ⟨hcommon, ?_, ?_⟩
    · simpa using namesTable_ne_fromFunction hkind
    · intro s hs t ht heq
      rcases List.mem_pair.mp ht with rfl | rfl
      · exact htable (heq ▸ hs)
      · exact fromFunction_not_mem_commonNames name backing (heq ▸ hs)

end GoEnum.Naming

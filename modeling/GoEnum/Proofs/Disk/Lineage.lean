/-
  The names that the ancestors of a path go through.

  The parent of a path ends before the last segment that is not idle, so its names are the
  first ones of the path, and it starts at the root if the path does. The same holds of
  all ancestors, since each is the parent of the one before (`leadsTowards_of_mem_lineage`).
-/
import GoEnum.Proofs.Disk.Path
import GoEnum.Proofs.Text.Lines
import Mathlib.Data.List.DropRight

namespace GoEnum.Path

variable {p q : Path}

/-! ### Segments -/

/-- Only the first segment tells whether a path starts at the root, and it does if it is empty and
not the only one. -/
theorem isAbsolute_eq {first : List UInt8} {rest : List (List UInt8)}
    (h : splitAtSlashes p.bytes = first :: rest) :
    p.isAbsolute = (first.isEmpty && !rest.isEmpty) := by
  rw [isAbsolute]
  cases hbytes : p.bytes with
  | nil =>
    rw [hbytes, splitAtSlashes] at h
    obtain ⟨rfl, rfl⟩ := List.cons.inj h
    rfl
  | cons b bs =>
    rw [hbytes, splitAtSlashes] at h
    split at h
    · rename_i hslash
      obtain ⟨rfl, rfl⟩ := List.cons.inj h
      simp [hslash, splitAtSlashes_ne_nil]
    · rename_i hslash
      have hfirst : first.isEmpty = false := by
        split at h <;> (obtain ⟨rfl, -⟩ := List.cons.inj h; rfl)
      simp [hslash, hfirst]

/-- Segments are found again after they are put together. -/
theorem splitAtSlashes_intercalate {segments : List (List UInt8)} (hne : segments ≠ [])
    (h : ∀ segment ∈ segments, slash ∉ segment) :
    splitAtSlashes ([slash].intercalate segments) = segments := by
  rw [splitAtSlashes_eq_splitOn]
  exact List.splitOn_intercalate _ h hne

/-- What stands between slashes, put together in two parts. -/
theorem intercalate_append {segments others : List (List UInt8)} (hsegments : segments ≠ [])
    (hothers : others ≠ []) :
    [slash].intercalate (segments ++ others) =
      [slash].intercalate segments ++ slash :: [slash].intercalate others := by
  induction segments with
  | nil => exact absurd rfl hsegments
  | cons segment segments ih =>
    by_cases hlast : segments = []
    · rw [hlast, List.singleton_append, List.intercalate_cons_of_ne_nil hothers,
        List.intercalate_singleton, List.append_assoc, List.singleton_append]
    · rw [List.cons_append, List.intercalate_cons_of_ne_nil (by simp [hlast]), ih hlast,
        List.intercalate_cons_of_ne_nil hlast]
      simp

theorem dropIdleEnd_isPrefix (segments : List (List UInt8)) :
    dropIdleEnd segments <+: segments :=
  List.rdropWhile_prefix isIdle segments

/-- The idle segments at the end are cut off, and no others. -/
theorem exists_eq_dropIdleEnd_append (segments : List (List UInt8)) :
    ∃ idle, segments = dropIdleEnd segments ++ idle ∧ ∀ segment ∈ idle, isIdle segment = true :=
  ⟨segments.rtakeWhile isIdle, List.rdropWhile_append_rtakeWhile.symm,
    fun _ h => List.mem_rtakeWhile_imp h⟩

theorem dropIdleEnd_dropIdleEnd (segments : List (List UInt8)) :
    dropIdleEnd (dropIdleEnd segments) = dropIdleEnd segments :=
  List.rdropWhile_idempotent isIdle segments

/-- What is left ends in a segment that is not idle, if anything is left. -/
theorem exists_dropIdleEnd_eq_concat {segments : List (List UInt8)}
    (h : dropIdleEnd segments ≠ []) :
    ∃ front last, dropIdleEnd segments = front ++ [last] ∧ isIdle last = false :=
  ⟨_, _, (List.dropLast_concat_getLast h).symm,
    Bool.eq_false_iff.mpr (List.rdropWhile_last_not _ _ h)⟩

/-! ### Parents -/

/-- How a path with a parent is put together. Either there is one segment that counts, the first
one, and the parent is the empty path; or there is a last one that counts, and the parent is what
is before it, without the idle segments at its end, or the root. -/
theorem parent?_cases {first : List UInt8} {rest : List (List UInt8)}
    (hp : splitAtSlashes p.bytes = first :: rest) (h : p.parent? = some q) :
    (dropIdleEnd rest = [] ∧ first ≠ [] ∧ q = ⟨[]⟩) ∨
    ∃ above idle last, dropIdleEnd rest = above ++ idle ++ [last] ∧ dropIdleEnd above = above ∧
      (∀ segment ∈ idle, isIdle segment = true) ∧ isIdle last = false ∧
      ((first = [] ∧ above = [] ∧ q = ⟨[slash]⟩) ∨
        (first ≠ [] ∨ above ≠ []) ∧ splitAtSlashes q.bytes = first :: above) := by
  have hsegments : ∀ segment ∈ first :: rest, slash ∉ segment := by
    intro segment hsegment
    rw [← hp, splitAtSlashes_eq_splitOn] at hsegment
    exact Text.not_mem_of_mem_splitOn hsegment
  rw [parent?, hp] at h
  dsimp only at h
  split at h
  · rename_i hnone
    split_ifs at h with hfirst
    exact Or.inl ⟨hnone, hfirst, (Option.some.inj h).symm⟩
  · rename_i hkept
    right
    obtain ⟨front, last, hlast, hidle⟩ := exists_dropIdleEnd_eq_concat hkept
    rw [hlast, List.dropLast_concat] at h
    obtain ⟨idle, hfront, hall⟩ := exists_eq_dropIdleEnd_append front
    refine ⟨dropIdleEnd front, idle, last, by rw [hlast, ← hfront], dropIdleEnd_dropIdleEnd front,
      hall, hidle, ?_⟩
    split at h
    · rename_i hroot
      rw [hroot]
      split_ifs at h with hfirst
      · exact Or.inl ⟨hfirst, rfl, (Option.some.inj h).symm⟩
      · obtain rfl := Option.some.inj h
        exact Or.inr ⟨Or.inl hfirst,
          splitAtSlashes_of_not_mem (hsegments first List.mem_cons_self)⟩
    · rename_i habove
      obtain rfl := Option.some.inj h
      refine Or.inr ⟨Or.inr habove, splitAtSlashes_intercalate (by simp) fun segment hmem => ?_⟩
      have hbegins : dropIdleEnd front <+: rest :=
        (dropIdleEnd_isPrefix front).trans
          ((List.prefix_append front [last]).trans (hlast ▸ dropIdleEnd_isPrefix rest))
      rcases List.mem_cons.mp hmem with rfl | hmem
      · exact hsegments _ List.mem_cons_self
      · exact hsegments _ (List.mem_cons_of_mem _ (hbegins.subset hmem))

/-! ### Ancestors -/

/-- Whether a path goes through the first names of another one, from the same start. -/
structure LeadsTowards (q p : Path) : Prop where
  /-- The names are the first ones of the other path. -/
  names : q.names <+: p.names
  /-- Both start at the root, or neither does. -/
  isAbsolute : q.isAbsolute = p.isAbsolute

theorem LeadsTowards.refl (p : Path) : LeadsTowards p p :=
  ⟨List.prefix_refl _, rfl⟩

theorem LeadsTowards.trans {r : Path} (hqp : LeadsTowards q p) (hpr : LeadsTowards p r) :
    LeadsTowards q r :=
  ⟨hqp.names.trans hpr.names, hqp.isAbsolute.trans hpr.isAbsolute⟩

/-- A path leads towards another one if it has its first segments, and more than an empty one. -/
theorem leadsTowards_of_splitAtSlashes {first : List UInt8} {rest above : List (List UInt8)}
    (hp : splitAtSlashes p.bytes = first :: rest) (hq : splitAtSlashes q.bytes = first :: above)
    (hbegins : above <+: rest) (hne : first ≠ [] ∨ above ≠ []) : LeadsTowards q p := by
  constructor
  · rw [names, names, hp, hq]
    exact ((List.prefix_cons_inj first).mpr hbegins).filter _
  · rw [isAbsolute_eq hp, isAbsolute_eq hq]
    rcases hne with hfirst | habove
    · rw [List.isEmpty_eq_false_iff.mpr hfirst, Bool.false_and, Bool.false_and]
    · have hrest : rest ≠ [] := by
        rintro rfl
        exact habove (List.prefix_nil.mp hbegins)
      rw [List.isEmpty_eq_false_iff.mpr habove, List.isEmpty_eq_false_iff.mpr hrest]

/-- The parent of a path leads towards it. -/
theorem leadsTowards_of_parent? (h : p.parent? = some q) : LeadsTowards q p := by
  obtain ⟨first, rest, hp⟩ := List.exists_cons_of_ne_nil (splitAtSlashes_ne_nil p.bytes)
  rcases parent?_cases hp h with ⟨-, hfirst, rfl⟩ |
    ⟨above, idle, last, hrest, -, -, -, ⟨rfl, -, rfl⟩ | ⟨hne, hq⟩⟩
  · constructor
    · rw [show names ⟨[]⟩ = [] from rfl]
      exact List.nil_prefix
    · rw [isAbsolute_eq hp]
      simp [hfirst, isAbsolute]
  · have hrest : rest ≠ [] := by
      rintro rfl
      simp [dropIdleEnd] at hrest
    constructor
    · rw [show names ⟨[slash]⟩ = [] from rfl]
      exact List.nil_prefix
    · rw [isAbsolute_eq hp]
      simp [hrest, isAbsolute]
  · have hkept : above <+: dropIdleEnd rest := by
      rw [hrest, List.append_assoc]
      exact List.prefix_append _ _
    exact leadsTowards_of_splitAtSlashes hp hq (hkept.trans (dropIdleEnd_isPrefix rest)) hne

theorem leadsTowards_of_mem_lineageUpTo {count : Nat} (h : q ∈ lineageUpTo count p) :
    LeadsTowards q p := by
  induction count generalizing p with
  | zero => exact absurd h List.not_mem_nil
  | succ count ih =>
    rw [lineageUpTo] at h
    cases hparent : p.parent? with
    | none =>
      rw [hparent] at h
      exact absurd h List.not_mem_nil
    | some above =>
      rw [hparent] at h
      rcases List.mem_cons.mp h with rfl | hmem
      · exact LeadsTowards.refl q
      · exact (ih hmem).trans (leadsTowards_of_parent? hparent)

/-- All ancestors of a path lead towards it. -/
theorem leadsTowards_of_mem_lineage (h : q ∈ p.lineage) : LeadsTowards q p :=
  leadsTowards_of_mem_lineageUpTo h

/-! ### The last step -/

/-- Whether a path ends in its first segment, or in one that is not idle. -/
def EndsInStep (p : Path) : Prop :=
  ∃ first rest, splitAtSlashes p.bytes = first :: rest ∧ dropIdleEnd rest = rest

/-- A parent has no idle segments at its end, unless it is the root. -/
theorem endsInStep_of_parent? (h : p.parent? = some q) : q = ⟨[slash]⟩ ∨ q.EndsInStep := by
  obtain ⟨first, rest, hp⟩ := List.exists_cons_of_ne_nil (splitAtSlashes_ne_nil p.bytes)
  rcases parent?_cases hp h with ⟨-, -, rfl⟩ |
    ⟨above, idle, last, -, habove, -, -, ⟨-, -, rfl⟩ | ⟨-, hq⟩⟩
  · exact Or.inr ⟨[], [], rfl, rfl⟩
  · exact Or.inl rfl
  · exact Or.inr ⟨first, above, hq, habove⟩

/-- Such a path goes through the names of its parent, dots and one more name. -/
theorem EndsInStep.names_eq (hends : p.EndsInStep) (h : p.parent? = some q) :
    ∃ dots last, p.names = q.names ++ dots ++ [last] ∧ ∀ name ∈ dots, name = dot := by
  obtain ⟨first, rest, hp, hkept⟩ := hends
  rcases parent?_cases hp h with ⟨hnone, hfirst, rfl⟩ |
    ⟨above, idle, last, hrest, -, hidle, hlast, hq⟩
  · rw [hkept] at hnone
    refine ⟨[], first, ?_, by simp⟩
    rw [names, hp, hnone, show names ⟨[]⟩ = [] from rfl]
    simp [hfirst]
  · have hnames : q.names = (first :: above).filter (!·.isEmpty) := by
      rcases hq with ⟨rfl, rfl, rfl⟩ | ⟨-, hq⟩
      · rfl
      · rw [names, hq]
    have hne : last.isEmpty = false := by
      rw [isIdle, Bool.or_eq_false_iff] at hlast
      exact hlast.1
    refine ⟨idle.filter (!·.isEmpty), last, ?_, fun name hname => ?_⟩
    · rw [names, hp, ← hkept, hrest, hnames, ← List.cons_append, ← List.cons_append,
        List.filter_append, List.filter_append, List.filter_singleton, hne]
      rfl
    · obtain ⟨hmem, hname⟩ := List.mem_filter.mp hname
      have hdot := hidle name hmem
      rw [isIdle, Bool.or_eq_true] at hdot
      exact beq_iff_eq.mp (hdot.resolve_left (by simpa using hname))

/-- A path has more bytes than its parent, after those of the parent. -/
theorem bytes_of_parent? (h : p.parent? = some q) :
    ∃ more, more ≠ [] ∧ p.bytes = q.bytes ++ more := by
  obtain ⟨first, rest, hp⟩ := List.exists_cons_of_ne_nil (splitAtSlashes_ne_nil p.bytes)
  have hbytes := intercalate_splitAtSlashes p.bytes
  rw [hp] at hbytes
  rcases parent?_cases hp h with ⟨-, hfirst, rfl⟩ |
    ⟨above, idle, last, hrest, -, -, -, ⟨rfl, rfl, rfl⟩ | ⟨-, hq⟩⟩
  · refine ⟨p.bytes, fun hnil => hfirst ?_, rfl⟩
    rw [hnil] at hp
    exact (List.cons.inj hp).1.symm
  · have hne : rest ≠ [] := by
      rintro rfl
      simp [dropIdleEnd] at hrest
    rw [List.intercalate_cons_of_ne_nil hne] at hbytes
    refine ⟨[slash].intercalate rest, fun hnil => ?_, hbytes.symm⟩
    -- The root has no parent.
    rw [hnil] at hbytes
    rw [← hbytes] at hp
    obtain rfl := (List.cons.inj hp).2
    simp [dropIdleEnd, splitAtSlashes, isIdle] at hrest
  · obtain ⟨tail, htail, -⟩ := exists_eq_dropIdleEnd_append rest
    have hparts : first :: rest = (first :: above) ++ (idle ++ last :: tail) := by
      rw [htail, hrest]
      simp
    rw [hparts, intercalate_append (by simp) (by simp), ← hq, intercalate_splitAtSlashes] at hbytes
    exact ⟨_, by simp, hbytes.symm⟩

end GoEnum.Path

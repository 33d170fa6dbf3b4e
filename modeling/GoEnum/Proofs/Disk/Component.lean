/-
  What a path consists of.

  The components of a path are its segments without the idle ones, in order; a slash or a
  dot at the start is one too. Two paths with the same components lead to the same place
  from everywhere. Joining the name of an entry to a path, with or without a slash at its
  end, adds that entry as one component (`components_join`), so different entries give
  paths with different components.
-/
import GoEnum.Proofs.Disk.Path

namespace GoEnum.Path

/-- A step on the way that a path describes. -/
inductive Component where
  /-- The start at the root. -/
  | root
  /-- The dot with which a path may start. -/
  | here
  /-- The step to the directory above. -/
  | above
  /-- The step to an entry. -/
  | entry (name : List UInt8)
deriving Repr, DecidableEq

/-- The step for a segment that is not idle. -/
def componentOf (segment : List UInt8) : Component :=
  if segment = dotDot then .above else .entry segment

/-- The step for the first segment, if it is one: an empty one is the root's if others follow. -/
def firstComponent? (segment : List UInt8) (others : List (List UInt8)) : Option Component :=
  if segment = [] then if others = [] then none else some .root
  else if segment = dot then some .here
  else some (componentOf segment)

/-- The components of the path with the given segments. -/
def componentsOfSegments : List (List UInt8) → List Component
  | [] => []
  | first :: others =>
    (firstComponent? first others).toList ++ (others.filter (!isIdle ·)).map componentOf

/-- The components of a path. -/
def components (p : Path) : List Component :=
  componentsOfSegments (splitAtSlashes p.bytes)

variable {p : Path} {name : List UInt8}

theorem IsEntryName.componentOf_eq (h : IsEntryName name) : componentOf name = .entry name :=
  if_neg h.ne_dotDot

theorem IsEntryName.firstComponent?_eq (h : IsEntryName name) (others : List (List UInt8)) :
    firstComponent? name others = some (.entry name) := by
  rw [firstComponent?, if_neg h.ne_nil, if_neg h.ne_dot, h.componentOf_eq]

/-- Of the segments after the first one, only those that are not idle are components, and there is
a root if there are any of them. -/
theorem componentsOfSegments_concat {first : List UInt8} {others rest : List (List UInt8)}
    (hothers : others ≠ []) (hkept : others.filter (!isIdle ·) = rest.filter (!isIdle ·) ++ [name])
    (hname : IsEntryName name) (hrest : first = [] → rest ≠ []) :
    componentsOfSegments (first :: others) =
      componentsOfSegments (first :: rest) ++ [.entry name] := by
  have hstart : firstComponent? first others = firstComponent? first rest := by
    unfold firstComponent?
    split
    · rename_i hfirst
      rw [if_neg (hrest hfirst)]
    · rfl
  rw [componentsOfSegments, componentsOfSegments, hstart, hkept, List.map_append,
    List.map_singleton, hname.componentOf_eq, List.append_assoc]

/-- A joined path has the components of the path and then the entry. -/
theorem components_join (p : Path) (hname : IsEntryName name) :
    (p.join ⟨name⟩).components = p.components ++ [.entry name] := by
  by_cases hp : p.bytes = []
  · have hjoin : p.join ⟨name⟩ = ⟨name⟩ := if_pos hp
    have hempty : p.components = [] := by
      rw [components, hp]
      rfl
    rw [hjoin, hempty, components, splitAtSlashes_of_not_mem hname.slash_not_mem,
      componentsOfSegments, hname.firstComponent?_eq]
    rfl
  · obtain ⟨first, others, hsegments⟩ :=
      List.exists_cons_of_ne_nil (splitAtSlashes_ne_nil p.stem)
    have hsplit : splitAtSlashes (p.join ⟨name⟩).bytes = first :: (others ++ [name]) := by
      rw [splitAtSlashes_join hp hname, hsegments, List.cons_append]
    rw [components, hsplit, components]
    by_cases hslash : p.bytes.getLast? = some slash
    · -- The slash at the end leaves an empty segment, whose place the name takes.
      have hbytes : splitAtSlashes p.bytes = first :: (others ++ [[]]) := by
        rw [← stem_append_slash hslash, splitAtSlashes_append_slash, hsegments]
        rfl
      rw [hbytes]
      refine componentsOfSegments_concat (by simp) ?_ hname (by simp)
      simp [isIdle, hname.ne_nil, hname.ne_dot]
    · have hbytes : splitAtSlashes p.bytes = first :: others := by
        rw [← hsegments, stem, if_neg hslash]
      rw [hbytes]
      refine componentsOfSegments_concat (by simp) ?_ hname ?_
      · simp [isIdle, hname.ne_nil, hname.ne_dot]
      · -- Only the empty path has just an empty segment.
        rintro rfl rfl
        have hempty := intercalate_splitAtSlashes p.bytes
        rw [hbytes] at hempty
        exact hp hempty.symm

end GoEnum.Path

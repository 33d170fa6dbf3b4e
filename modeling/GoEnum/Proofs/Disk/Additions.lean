/-
  Making the directories on the way of a path.

  Between two trees everything is kept (`Keeps`) if each location has in the later tree
  what it has in the earlier one, or nothing there and then a directory on the way of the
  path. This holds from one tree to the next when a directory is made, and is handed on
  from step to step. So however many directories are made, whether or not they suffice,
  no file and no directory that was there changes or goes.
-/
import GoEnum.Proofs.Disk.Entry
import GoEnum.Proofs.Disk.Lineage

namespace GoEnum.Disk.FileTree

open GoEnum.Path

variable {tree between after : FileTree} {here place : Location} {p q : Path}
  {content : List UInt8}

/-! ### What is kept -/

/-- Whether some first names of a path lead to a location. -/
def IsOnWay (tree : FileTree) (here : Location) (p : Path) (place : Location) : Prop :=
  ∃ names, names <+: p.names ∧ tree.follow (origin here p) names = .ok place

/-- Whether a location has what it had before, unless it had nothing and is now a directory on the
way of a path. -/
def KeepsAt (here : Location) (p : Path) (tree after : FileTree) (place : Location) : Prop :=
  after.find? place = tree.find? place ∨
    (tree.find? place = none ∧ after.find? place = some .directory ∧
      after.IsOnWay here p place)

/-- Whether a tree is another one with at most some more directories on the way of a path. -/
def Keeps (here : Location) (p : Path) (tree after : FileTree) : Prop :=
  ∀ place, KeepsAt here p tree after place

/-- What was there is there as it was. -/
theorem KeepsAt.find?_eq {entry : Entry} (h : KeepsAt here p tree after place)
    (hentry : tree.find? place = some entry) : after.find? place = some entry := by
  rcases h with hsame | ⟨hnone, -⟩
  · rw [hsame, hentry]
  · exact absurd (hnone.symm.trans hentry) (by simp)

theorem Keeps.grows (h : Keeps here p tree after) : Grows tree after := by
  refine ⟨fun place hdirectory => (h place).find?_eq hdirectory, fun place hthere => ?_⟩
  obtain ⟨entry, hentry⟩ := Option.isSome_iff_exists.mp hthere
  rw [(h place).find?_eq hentry]
  rfl

theorem Keeps.refl (here : Location) (p : Path) (tree : FileTree) : Keeps here p tree tree :=
  fun _ => Or.inl rfl

theorem IsOnWay.mono (hgrows : Grows tree after) (h : tree.IsOnWay here p place) :
    after.IsOnWay here p place := by
  obtain ⟨names, hbegins, hfollow⟩ := h
  exact ⟨names, hbegins, follow_mono hgrows hfollow⟩

/-- What was kept at a location still is when the tree grows elsewhere. -/
theorem KeepsAt.mono (h : KeepsAt here p tree between place)
    (hsame : after.find? place = between.find? place) (hgrows : Grows between after) :
    KeepsAt here p tree after place := by
  rcases h with hkept | ⟨hnone, hdirectory, hway⟩
  · exact Or.inl (hsame.trans hkept)
  · exact Or.inr ⟨hnone, hsame.trans hdirectory, hway.mono hgrows⟩

/-- What is kept by two steps is kept by both together. A directory that the first one made is on
the way still after the second. -/
theorem Keeps.trans (hfirst : Keeps here p tree between) (hsecond : Keeps here p between after) :
    Keeps here p tree after := by
  intro place
  rcases hsecond place with hsame | ⟨hnone, hdirectory, hway⟩
  · exact (hfirst place).mono hsame hsecond.grows
  · rcases hfirst place with hkept | ⟨-, hmade, -⟩
    · exact Or.inr ⟨hkept.symm.trans hnone, hdirectory, hway⟩
    · -- Nothing is made where the first step made a directory.
      exact absurd (hmade.symm.trans hnone) (by simp)

/-- What is on the way of a path is on the way of all paths that it leads towards. -/
theorem Keeps.of_leadsTowards (h : Keeps here q tree after) (hq : LeadsTowards q p) :
    Keeps here p tree after := by
  intro place
  rcases h place with hsame | ⟨hnone, hdirectory, names, hbegins, hfollow⟩
  · exact Or.inl hsame
  · have horigin : origin here q = origin here p := by
      rw [origin, origin, hq.isAbsolute]
    exact Or.inr ⟨hnone, hdirectory, names, hbegins.trans hq.names, horigin ▸ hfollow⟩

/-! ### Making a directory -/

/-- What holds of a directory that is made: nothing was at its place. -/
theorem makeDirectory_eq_ok (h : tree.makeDirectory here p = .ok after) :
    ∃ parent name, NamesChild tree here p parent name ∧ name.length ≤ maxName ∧
      tree.find? (parent ++ [name]) = none ∧
      tree.put (parent ++ [name]) .directory = after := by
  unfold makeDirectory at h
  cases hparent : tree.resolveParent here p with
  | error cause => simp [hparent, bind, Except.bind] at h
  | ok found =>
    obtain ⟨parent, last⟩ := found
    cases last with
    | none => simp [hparent, bind, Except.bind] at h
    | some name =>
      simp only [hparent, bind, Except.bind] at h
      split_ifs at h with hlong hthere
      exact ⟨parent, name, resolveParent_name hparent, Nat.not_lt.mp hlong, by simpa using hthere,
        Except.ok.inj h⟩

/-- A directory that is made is new, and the path leads to it. -/
theorem keeps_makeDirectory (h : tree.makeDirectory here p = .ok after) :
    Keeps here p tree after := by
  obtain ⟨parent, name, hchild, hlong, hnone, rfl⟩ := makeDirectory_eq_ok h
  intro place
  by_cases hplace : place = parent ++ [name]
  · have hmade : tree.ensure (parent ++ [name]) = tree.put (parent ++ [name]) .directory := by
      rw [ensure, if_neg (by simp [hnone])]
    have hgrows : Grows tree (tree.put (parent ++ [name]) .directory) :=
      hmade ▸ grows_ensure (by simp)
    rw [hplace]
    exact Or.inr ⟨hnone, find?_put_self _, p.names, List.prefix_refl _,
      hchild.follow_names hgrows hlong (by simp)⟩
  · exact Or.inl (find?_put_of_ne _ hplace)

/-! ### Writing a file -/

theorem NamesChild.resolveParent_eq {name : List UInt8} (h : NamesChild tree here p place name) :
    tree.resolveParent here p = .ok (place, some name) := by
  unfold resolveParent
  simp [h.usable, h.getLast?, h.follow, needDirectory_eq_ok_iff.mpr h.directory, h.ne_dot,
    h.ne_dotDot, bind, Except.bind]

theorem NamesChild.mono {name : List UInt8} (h : NamesChild tree here p place name)
    (hgrows : Grows tree after) : NamesChild after here p place name :=
  { h with
    follow := follow_mono hgrows h.follow
    directory := hgrows.directory place h.directory }

/-- A file that was opened for writing can be written to. -/
theorem writable_put (h : tree.writable here p = .ok place) (content : List UInt8) :
    (tree.put place (.file content)).writable here p = .ok place := by
  obtain ⟨parent, name, hchild, hslash, hlong, rfl, hdirectory⟩ := writable_eq_ok h
  unfold writable
  rw [(hchild.mono (grows_put_file hdirectory)).resolveParent_eq]
  simp [hslash, Nat.not_lt.mpr hlong, bind, Except.bind]

/-- Opening a file for writing changes nothing else. -/
theorem find?_put_of_writable (h : tree.writable here p = .ok place) (content : List UInt8)
    {other : Location} (hother : other ≠ place) :
    (tree.put place (.file content)).find? other = tree.find? other := by
  obtain ⟨parent, name, -, -, -, rfl, -⟩ := writable_eq_ok h
  exact find?_put_of_ne _ hother

end GoEnum.Disk.FileTree

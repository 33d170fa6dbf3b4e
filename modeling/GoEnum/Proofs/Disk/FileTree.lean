/-
  What is stored can be read.

  A tree grows when no directory goes and no name goes (`Grows`), and then names
  still lead where they led (`follow_mono`). Putting a file where no directory is
  makes a tree grow. The location of a path that is opened for writing is where
  its parent's names lead, with its last name below (`resolveParent_name`), so
  once the file is there the whole path leads to it, and reading it gives what
  was stored (`read_store`).
-/
import GoEnum.Disk.FileTree
import Mathlib.Data.List.Basic

namespace GoEnum.Disk.FileTree

variable {tree after : FileTree} {here place there : Location} {p : Path} {name : List UInt8}
  {names : List (List UInt8)} {content : List UInt8}

/-! ### What is put below a directory -/

@[simp] theorem find?_put_self (entry : Entry) :
    (tree.put (place ++ [name]) entry).find? (place ++ [name]) = some entry := by
  rw [find?_put _ _ _ _ (by simp), if_pos rfl]

theorem find?_put_of_ne (entry : Entry) (h : there ≠ place ++ [name]) :
    (tree.put (place ++ [name]) entry).find? there = tree.find? there := by
  rw [find?_put _ _ _ _ (by simp), if_neg h]

/-! ### Trees that grow -/

/-- Whether a tree has all directories of another one, and something wherever that one has. -/
structure Grows (tree after : FileTree) : Prop where
  /-- Directories stay. -/
  directory : ∀ place, tree.find? place = some .directory → after.find? place = some .directory
  /-- Whatever is there stays, or something else comes in its place. -/
  present : ∀ place, (tree.find? place).isSome → (after.find? place).isSome

theorem Grows.refl (tree : FileTree) : Grows tree tree :=
  ⟨fun _ h => h, fun _ h => h⟩

theorem Grows.trans {between : FileTree} (hfirst : Grows tree between)
    (hsecond : Grows between after) : Grows tree after :=
  ⟨fun place h => hsecond.directory place (hfirst.directory place h),
    fun place h => hsecond.present place (hfirst.present place h)⟩

theorem grows_put_file (hplace : tree.find? place ≠ some .directory) :
    Grows tree (tree.put place (.file content)) := by
  have hroot : place ≠ [] := by
    rintro rfl
    exact hplace rfl
  refine ⟨fun other h => ?_, fun other h => ?_⟩
  · have hne : other ≠ place := by
      rintro rfl
      exact hplace h
    rw [find?_put tree place other _ hroot, if_neg hne, h]
  · rw [find?_put tree place other _ hroot]
    split
    · rfl
    · exact h

theorem needDirectory_eq_ok_iff :
    tree.needDirectory place = .ok () ↔ tree.find? place = some .directory := by
  unfold needDirectory
  split <;> simp_all

theorem enter_mono (hgrows : Grows tree after) (h : tree.enter place name = .ok there) :
    after.enter place name = .ok there := by
  unfold enter at h ⊢
  cases hneed : tree.needDirectory place with
  | error cause => simp [hneed, bind, Except.bind] at h
  | ok =>
    have hafter : after.needDirectory place = .ok () :=
      needDirectory_eq_ok_iff.mpr (hgrows.directory place (needDirectory_eq_ok_iff.mp hneed))
    simp only [hneed, hafter, bind, Except.bind] at h ⊢
    -- Only the last test looks at the tree again, and it asks whether something is there.
    by_cases hthere : (tree.find? (place ++ [name])).isSome
    · simpa only [hthere, hgrows.present _ hthere] using h
    · rw [if_neg hthere] at h
      split_ifs at h ⊢ <;> exact h

theorem follow_cons :
    tree.follow place (name :: names) =
      (tree.enter place name).bind fun next => tree.follow next names :=
  rfl

/-- Names lead in a tree that has grown where they led before. -/
theorem follow_mono (hgrows : Grows tree after) (h : tree.follow place names = .ok there) :
    after.follow place names = .ok there := by
  induction names generalizing place with
  | nil => exact h
  | cons name names ih =>
    rw [follow_cons] at h ⊢
    cases henter : tree.enter place name with
    | error cause => simp [henter, Except.bind] at h
    | ok next =>
      rw [henter] at h
      rw [enter_mono hgrows henter]
      exact ih h

theorem follow_concat (place : Location) (names : List (List UInt8)) (name : List UInt8) :
    tree.follow place (names ++ [name]) =
      (tree.follow place names).bind fun next => tree.enter next name := by
  induction names generalizing place with
  | nil =>
    change (tree.enter place name).bind Except.ok = tree.enter place name
    cases tree.enter place name <;> rfl
  | cons first names ih =>
    rw [List.cons_append, follow_cons, follow_cons]
    cases tree.enter place first with
    | error cause => rfl
    | ok next => exact ih next

/-! ### Reading what was stored -/

/-- A name that is neither `.` nor `..` and not too long leads to what is there. -/
theorem enter_eq_ok (hdirectory : tree.find? place = some .directory) (hdot : name ≠ Path.dot)
    (hdotDot : name ≠ Path.dotDot) (hlong : name.length ≤ maxName)
    (hthere : (tree.find? (place ++ [name])).isSome) :
    tree.enter place name = .ok (place ++ [name]) := by
  rw [enter, needDirectory_eq_ok_iff.mpr hdirectory]
  simp [bind, Except.bind, hdot, hdotDot, Nat.not_lt.mpr hlong, hthere]

/-- What is known of a path once its last name is to be looked up in a directory. -/
structure NamesChild (tree : FileTree) (here : Location) (p : Path) (place : Location)
    (name : List UInt8) : Prop where
  /-- The path can be given to the system at all. -/
  usable : usable p = .ok ()
  /-- The name is the last one of the path. -/
  getLast? : p.names.getLast? = some name
  /-- The names before it lead to the directory. -/
  follow : tree.follow (origin here p) p.names.dropLast = .ok place
  /-- There is a directory. -/
  directory : tree.find? place = some .directory
  /-- The name is not that of the directory itself, -/
  ne_dot : name ≠ Path.dot
  /-- nor that of its parent. -/
  ne_dotDot : name ≠ Path.dotDot

theorem resolveParent_name (h : tree.resolveParent here p = .ok (place, some name)) :
    NamesChild tree here p place name := by
  unfold resolveParent at h
  cases husable : usable p with
  | error cause => simp [husable, bind, Except.bind] at h
  | ok =>
    cases hlast : p.names.getLast? with
    | none => simp [husable, hlast, bind, Except.bind] at h
    | some last =>
      cases hfollow : tree.follow (origin here p) p.names.dropLast with
      | error cause => simp [husable, hlast, hfollow, bind, Except.bind] at h
      | ok directory =>
        cases hneed : tree.needDirectory directory with
        | error cause => simp [husable, hlast, hfollow, hneed, bind, Except.bind] at h
        | ok =>
          simp [husable, hlast, hfollow, hneed, bind, Except.bind,
            Option.ite_none_left_eq_some] at h
          obtain ⟨rfl, ⟨hdot, hdotDot⟩, rfl⟩ := h
          exact ⟨husable, hlast, hfollow, needDirectory_eq_ok_iff.mp hneed, hdot, hdotDot⟩

/-- A path leads to the child that its last name names, once something is there. -/
theorem NamesChild.follow_names (h : NamesChild tree here p place name)
    (hgrows : Grows tree after) (hlong : name.length ≤ maxName)
    (hthere : (after.find? (place ++ [name])).isSome) :
    after.follow (origin here p) p.names = .ok (place ++ [name]) := by
  have hnames : p.names = p.names.dropLast ++ [name] := by
    obtain ⟨front, hfront⟩ := List.getLast?_eq_some_iff.mp h.getLast?
    rw [hfront, List.dropLast_concat]
  have hdirectory := hgrows.directory place h.directory
  rw [hnames, follow_concat, follow_mono hgrows h.follow]
  exact enter_eq_ok hdirectory h.ne_dot h.ne_dotDot hlong hthere

/-- What holds of the location of a file that is opened for writing. -/
theorem writable_eq_ok (h : tree.writable here p = .ok place) :
    ∃ parent name, NamesChild tree here p parent name ∧ p.endsInSlash = false ∧
      name.length ≤ maxName ∧ place = parent ++ [name] ∧
      tree.find? place ≠ some .directory := by
  unfold writable at h
  cases hparent : tree.resolveParent here p with
  | error cause => simp [hparent, bind, Except.bind] at h
  | ok found =>
    obtain ⟨parent, last⟩ := found
    cases last with
    | none => simp [hparent, bind, Except.bind] at h
    | some name =>
      simp only [hparent, bind, Except.bind] at h
      split_ifs at h with hslash hlong hdirectory
      obtain rfl := Except.ok.inj h
      exact ⟨parent, name, resolveParent_name hparent, by simpa using hslash,
        Nat.not_lt.mp hlong, rfl, hdirectory⟩

/-- Once a file is where a path was opened for writing, the path leads to it. -/
theorem resolve_put (h : tree.writable here p = .ok place) (content : List UInt8) :
    (tree.put place (.file content)).resolve here p = .ok (place, .file content) := by
  obtain ⟨parent, name, hchild, hslash, hlong, rfl, hdirectory⟩ := writable_eq_ok h
  have hgrows : Grows tree (tree.put (parent ++ [name]) (.file content)) :=
    grows_put_file hdirectory
  have hfollow := hchild.follow_names hgrows hlong (by simp)
  simp [resolve, hchild.usable, hfollow, hslash, bind, Except.bind]

/-- A file is stored where one can be opened for writing. -/
theorem store_eq_ok_iff :
    tree.store here p content = .ok after ↔
      ∃ place, tree.writable here p = .ok place ∧ tree.put place (.file content) = after := by
  unfold store
  cases tree.writable here p <;> simp [Except.map]

/-- A file that was stored is read back. -/
theorem read_store (h : tree.store here p content = .ok after) :
    after.read here p = .ok content := by
  obtain ⟨place, hwritable, rfl⟩ := store_eq_ok_iff.mp h
  rw [read, resolve_put hwritable]

end GoEnum.Disk.FileTree

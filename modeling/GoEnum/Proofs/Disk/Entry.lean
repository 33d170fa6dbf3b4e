/-
  Making and opening the entries of a directory.

  A path that leads to a directory, joined with the name of an entry, can be used if
  there is room for the name (`HasRoom`). Then it leads to what is stored below the
  directory under that name (`resolve_join`), a directory is made there if nothing is
  there yet (`makeDirectory_join`), and a file is opened there unless a directory is
  there (`writable_join`). `ensure` and `deliver` are what this does to the tree.
-/
import GoEnum.Proofs.Disk.FileTree
import GoEnum.Proofs.Disk.Path

namespace GoEnum.Disk.FileTree

open GoEnum.Path

variable {tree : FileTree} {here place : Location} {p : Path} {name : List UInt8} {entry : Entry}

/-! ### What a path leads to -/

/-- A path leads to a directory if it can be used and its names lead there. -/
theorem resolve_eq_directory_iff :
    tree.resolve here p = .ok (place, .directory) ↔
      usable p = .ok () ∧ tree.follow (origin here p) p.names = .ok place ∧
        tree.find? place = some .directory := by
  unfold resolve
  cases husable : usable p with
  | error cause => simp [bind, Except.bind]
  | ok =>
    cases hfollow : tree.follow (origin here p) p.names with
    | error cause => simp [bind, Except.bind]
    | ok found =>
      cases hfind : tree.find? found with
      | none =>
        simp only [bind, Except.bind, hfind, Except.ok.injEq, reduceCtorEq, false_iff]
        rintro ⟨-, rfl, hplace⟩
        exact absurd (hfind.symm.trans hplace) (by simp)
      | some entry =>
        cases entry with
        | directory =>
          simp only [bind, Except.bind, hfind, Except.ok.injEq, Prod.mk.injEq, and_true, true_and]
          exact ⟨fun h => ⟨h, h ▸ hfind⟩, And.left⟩
        | file content =>
          simp only [bind, Except.bind, hfind, Except.ok.injEq, true_and]
          constructor
          · intro h
            split_ifs at h
            exact absurd (Except.ok.inj h) (by simp)
          · rintro ⟨rfl, hplace⟩
            exact absurd (hfind.symm.trans hplace) (by simp)

theorem bytes_ne_nil_of_usable (h : usable p = .ok ()) : p.bytes ≠ [] := by
  intro hnil
  simp [usable, hnil] at h

/-- Whether neither a name nor the path that ends in it is too long. -/
structure HasRoom (p : Path) (name : List UInt8) : Prop where
  /-- The whole path is not too long, -/
  path : (p.join ⟨name⟩).bytes.length < maxPath
  /-- nor is the name. -/
  name : name.length ≤ maxName

instance (p : Path) (name : List UInt8) : Decidable (HasRoom p name) :=
  decidable_of_iff ((p.join ⟨name⟩).bytes.length < maxPath ∧ name.length ≤ maxName)
    ⟨fun h => ⟨h.1, h.2⟩, fun h => ⟨h.path, h.name⟩⟩

theorem zero_not_mem_of_usable (h : usable p = .ok ()) : 0 ∉ p.bytes := by
  unfold usable at h
  split_ifs at h with hzero
  simpa using hzero

theorem zero_not_mem_join (hp : p.bytes ≠ []) (hzero : 0 ∉ p.bytes) (hname : IsEntryName name) :
    0 ∉ (p.join ⟨name⟩).bytes := by
  have hstem : 0 ∉ p.stem := by
    unfold stem
    split
    · exact fun h => hzero ((List.dropLast_subset _) h)
    · exact hzero
  rw [bytes_join hp]
  simp [hstem, hname.zero_not_mem, slash]

/-- A joined path can be used unless it is too long. -/
theorem usable_join (hp : usable p = .ok ()) (hname : IsEntryName name) :
    usable (p.join ⟨name⟩) =
      if (p.join ⟨name⟩).bytes.length < maxPath then .ok () else .error .nameTooLong := by
  have hne := bytes_ne_nil_of_usable hp
  have hzero := zero_not_mem_join hne (zero_not_mem_of_usable hp) hname
  unfold usable
  simp only [List.contains_iff_mem, hzero, bytes_join_ne_nil hne, if_false]
  by_cases hlong : (p.join ⟨name⟩).bytes.length < maxPath
  · rw [if_pos hlong, if_neg (Nat.not_le.mpr hlong)]
  · rw [if_neg hlong, if_pos (Nat.not_lt.mp hlong)]

theorem origin_join (hp : p.bytes ≠ []) (inner : Path) :
    origin here (p.join inner) = origin here p := by
  rw [origin, origin, isAbsolute_join hp]

/-- The last name of a joined path is looked up in the directory that the path leads to. -/
theorem resolveParent_join (hp : tree.resolve here p = .ok (place, .directory))
    (hname : IsEntryName name) :
    tree.resolveParent here (p.join ⟨name⟩) =
      if (p.join ⟨name⟩).bytes.length < maxPath then .ok (place, some name)
      else .error .nameTooLong := by
  obtain ⟨husable, hfollow, hplace⟩ := resolve_eq_directory_iff.mp hp
  have hne := bytes_ne_nil_of_usable husable
  unfold resolveParent
  rw [usable_join husable hname, names_join hne hname, origin_join hne]
  split
  · simp only [bind, Except.bind, List.getLast?_concat, List.dropLast_concat, hfollow,
      needDirectory_eq_ok_iff.mpr hplace, hname.ne_dot, hname.ne_dotDot, or_self, if_false]
  · rfl

/-- A joined path leads to the entry of that name, if there is one. -/
theorem resolve_join (hp : tree.resolve here p = .ok (place, .directory))
    (hname : IsEntryName name) (hroom : HasRoom p name)
    (hentry : tree.find? (place ++ [name]) = some entry) :
    tree.resolve here (p.join ⟨name⟩) = .ok (place ++ [name], entry) := by
  obtain ⟨husable, hfollow, hplace⟩ := resolve_eq_directory_iff.mp hp
  have hne := bytes_ne_nil_of_usable husable
  have henter : tree.follow (origin here (p.join ⟨name⟩)) (p.join ⟨name⟩).names =
      .ok (place ++ [name]) := by
    rw [names_join hne hname, origin_join hne, follow_concat, hfollow]
    exact enter_eq_ok hplace hname.ne_dot hname.ne_dotDot hroom.name (by rw [hentry]; rfl)
  unfold resolve
  rw [usable_join husable hname, if_pos hroom.path, henter]
  simp only [bind, Except.bind, hentry, endsInSlash_join hne hname, Bool.false_eq_true, if_false]
  cases entry <;> rfl

/-! ### What can be made and opened -/

/-- A directory is made where there is room and nothing is there yet. -/
theorem makeDirectory_join (hp : tree.resolve here p = .ok (place, .directory))
    (hname : IsEntryName name) :
    tree.makeDirectory here (p.join ⟨name⟩) =
      if HasRoom p name then
        if (tree.find? (place ++ [name])).isSome then .error .alreadyExists
        else .ok (tree.put (place ++ [name]) .directory)
      else .error .nameTooLong := by
  unfold makeDirectory
  rw [resolveParent_join hp hname]
  by_cases hpath : (p.join ⟨name⟩).bytes.length < maxPath
  · by_cases hlong : name.length ≤ maxName
    · simp only [if_pos hpath, bind, Except.bind, Nat.not_lt.mpr hlong, if_false,
        if_pos (HasRoom.mk hpath hlong)]
    · simp only [if_pos hpath, bind, Except.bind, Nat.not_le.mp hlong, if_true,
        if_neg fun hroom : HasRoom p name => hlong hroom.name]
  · rw [if_neg hpath, if_neg fun hroom : HasRoom p name => hpath hroom.path]
    rfl

/-- A file is opened where there is room and no directory. -/
theorem writable_join (hp : tree.resolve here p = .ok (place, .directory))
    (hname : IsEntryName name) :
    tree.writable here (p.join ⟨name⟩) =
      if HasRoom p name then
        if tree.find? (place ++ [name]) = some .directory then .error .isADirectory
        else .ok (place ++ [name])
      else .error .nameTooLong := by
  have hne := bytes_ne_nil_of_usable (resolve_eq_directory_iff.mp hp).1
  unfold writable
  rw [resolveParent_join hp hname]
  by_cases hpath : (p.join ⟨name⟩).bytes.length < maxPath
  · by_cases hlong : name.length ≤ maxName
    · simp only [if_pos hpath, bind, Except.bind, endsInSlash_join hne hname, Bool.false_eq_true,
        Nat.not_lt.mpr hlong, if_false, if_pos (HasRoom.mk hpath hlong)]
    · simp only [if_pos hpath, bind, Except.bind, endsInSlash_join hne hname, Bool.false_eq_true,
        if_false, Nat.not_le.mp hlong, if_true,
        if_neg fun hroom : HasRoom p name => hlong hroom.name]
  · rw [if_neg hpath, if_neg fun hroom : HasRoom p name => hpath hroom.path]
    rfl

/-- A file is stored where one is opened. -/
theorem store_join (hp : tree.resolve here p = .ok (place, .directory))
    (hname : IsEntryName name) (content : List UInt8) :
    tree.store here (p.join ⟨name⟩) content =
      if HasRoom p name then
        if tree.find? (place ++ [name]) = some .directory then .error .isADirectory
        else .ok (tree.put (place ++ [name]) (.file content))
      else .error .nameTooLong := by
  rw [store, writable_join hp hname]
  split
  · split <;> rfl
  · rfl

/-! ### The tree afterwards -/

/-- The tree with a directory at a location, unless something is there already. -/
def ensure (tree : FileTree) (place : Location) : FileTree :=
  if (tree.find? place).isSome then tree else tree.put place .directory

/-- A directory is there afterwards, unless a file was. -/
theorem getD_directory {found : Option Entry} (h : found = none ∨ found = some .directory) :
    found.getD .directory = .directory := by
  rcases h with rfl | rfl <;> rfl

theorem find?_ensure (hplace : place ≠ []) (other : Location) :
    (tree.ensure place).find? other =
      if other = place then some ((tree.find? place).getD .directory) else tree.find? other := by
  unfold ensure
  cases hfind : tree.find? place with
  | none =>
    rw [if_neg (by simp), find?_put _ _ _ _ hplace]
    rfl
  | some entry =>
    rw [if_pos Option.isSome_some]
    split
    · rename_i heq
      rw [heq, hfind]
      rfl
    · rfl

/-- The tree with a file in a directory, which is made for it if it is not there. -/
def deliver (tree : FileTree) (place : Location) (name file : List UInt8)
    (content : List UInt8) : FileTree :=
  (tree.ensure (place ++ [name])).put (place ++ [name, file]) (.file content)

/-- Delivering a file changes nothing but the file and its directory. -/
theorem find?_deliver (tree : FileTree) (place : Location) (name file content : List UInt8)
    (other : Location) :
    (tree.deliver place name file content).find? other =
      if other = place ++ [name, file] then some (.file content)
      else if other = place ++ [name] then
        some ((tree.find? (place ++ [name])).getD .directory)
      else tree.find? other := by
  rw [deliver, find?_put _ _ _ _ (by simp), find?_ensure (by simp)]

theorem putEntry_putEntry (place : Location) (first second : Entry)
    (entries : List (Location × Entry)) :
    putEntry place second (putEntry place first entries) = putEntry place second entries := by
  induction entries with
  | nil => simp [putEntry]
  | cons head rest ih =>
    obtain ⟨at', old⟩ := head
    by_cases hat : at' = place
    · simp [putEntry, hat]
    · simp [putEntry, hat, ih]

/-- What is put last at a location is what counts. -/
theorem put_put (tree : FileTree) (place : Location) (first second : Entry) :
    (tree.put place first).put place second = tree.put place second := by
  rw [put, put, put, putEntry_putEntry]

/-! ### Paths in the tree afterwards -/

theorem grows_ensure (hplace : place ≠ []) : Grows tree (tree.ensure place) := by
  refine ⟨fun other h => ?_, fun other h => ?_⟩
  · rw [find?_ensure hplace]
    split
    · rename_i heq
      rw [← heq, h]
      rfl
    · exact h
  · rw [find?_ensure hplace]
    split
    · rfl
    · exact h

/-- A path that leads to a directory still leads there when the tree has grown. -/
theorem resolve_mono {after : FileTree} (hgrows : Grows tree after)
    (hp : tree.resolve here p = .ok (place, .directory)) :
    after.resolve here p = .ok (place, .directory) := by
  obtain ⟨husable, hfollow, hplace⟩ := resolve_eq_directory_iff.mp hp
  exact resolve_eq_directory_iff.mpr
    ⟨husable, follow_mono hgrows hfollow, hgrows.directory place hplace⟩

/-- The path of a directory leads to it once it is made, or if it was there. -/
theorem resolve_ensure_join (hp : tree.resolve here p = .ok (place, .directory))
    (hname : IsEntryName name) (hroom : HasRoom p name)
    (hthere : tree.find? (place ++ [name]) = none ∨
      tree.find? (place ++ [name]) = some .directory) :
    (tree.ensure (place ++ [name])).resolve here (p.join ⟨name⟩) =
      .ok (place ++ [name], .directory) := by
  have hfind : (tree.ensure (place ++ [name])).find? (place ++ [name]) = some .directory := by
    rw [find?_ensure (by simp), if_pos rfl, getD_directory hthere]
  exact resolve_join (resolve_mono (grows_ensure (by simp)) hp) hname hroom hfind

end GoEnum.Disk.FileTree

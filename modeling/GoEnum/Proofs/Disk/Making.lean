/-
  A path whose directories are made.

  `withDirectories?` says what becomes of a tree when all directories of a path are
  made: the names of the path are followed one after the other, and where one leads
  nowhere yet, a directory is made (`makeAndEnter?`). Following the names without
  making anything does the same as long as everything is there, and finds nothing just
  where the first directory would be made. So it tells how far a path can be followed
  already, and what making one directory at its end comes to (`makeDirectory_eq`).
-/
import GoEnum.Proofs.Disk.Additions

namespace GoEnum.Disk.FileTree

open GoEnum.Path

variable {tree after : FileTree} {here place next : Location} {p : Path} {name : List UInt8}
  {names : List (List UInt8)} {cause : OsError}

/-! ### Making what is missing -/

/-- The location that a name leads to, and the tree with a directory there if nothing was. -/
def makeAndEnter? (tree : FileTree) (place : Location) (name : List UInt8) :
    Option (FileTree × Location) :=
  match tree.enter place name with
  | .ok next => some (tree, next)
  | .error .notFound => some (tree.put (place ++ [name]) .directory, place ++ [name])
  | .error _ => none

/-- The location that some names lead to, one after the other, and the tree with all directories
that were missing there. -/
def makeAndFollow? (tree : FileTree) (place : Location) :
    List (List UInt8) → Option (FileTree × Location)
  | [] => some (tree, place)
  | name :: names =>
    (tree.makeAndEnter? place name).bind fun (made, next) => made.makeAndFollow? next names

/-- The tree with all directories of a path: nothing if they cannot be made or if the path cannot
be used. The empty path asks for none. -/
def withDirectories? (tree : FileTree) (here : Location) (p : Path) : Option FileTree :=
  if p.bytes = [] then some tree
  else if usable p = .ok () then
    (tree.makeAndFollow? (origin here p) p.names).bind fun (made, place) =>
      if made.find? place = some .directory then some made else none
  else none

/-! ### One name -/

/-- What is known of a name that leads nowhere yet: a directory can be made for it. -/
theorem enter_eq_notFound (h : tree.enter place name = .error .notFound) :
    tree.find? place = some .directory ∧ name ≠ dot ∧ name ≠ dotDot ∧ name.length ≤ maxName ∧
      tree.find? (place ++ [name]) = none := by
  unfold enter needDirectory at h
  split at h
  · rename_i hdirectory
    simp only [bind, Except.bind] at h
    split_ifs at h with hdot hdotDot hlong hthere
    · exact absurd (Except.error.inj h) (by decide)
    · exact ⟨hdirectory, hdot, hdotDot, Nat.not_lt.mp hlong, by simpa using hthere⟩
  · exact absurd (Except.error.inj h) (by decide)

/-- From what is no directory, no name leads on. -/
theorem enter_of_not_directory (h : tree.find? place ≠ some .directory) (name : List UInt8) :
    tree.enter place name = .error .notADirectory := by
  have hneed : tree.needDirectory place = .error .notADirectory := by
    unfold needDirectory
    split
    · rename_i hdirectory
      exact absurd hdirectory h
    · rfl
  rw [enter, hneed]
  rfl

theorem enter_dot (h : tree.find? place = some .directory) : tree.enter place dot = .ok place := by
  rw [enter, needDirectory_eq_ok_iff.mpr h]
  rfl

/-- No name is refused as one that is there already. -/
theorem enter_ne_alreadyExists (tree : FileTree) (place : Location) (name : List UInt8) :
    tree.enter place name ≠ .error .alreadyExists := by
  intro h
  unfold enter needDirectory at h
  split at h
  · simp only [bind, Except.bind] at h
    split_ifs at h
    · exact absurd (Except.error.inj h) (by decide)
    · exact absurd (Except.error.inj h) (by decide)
  · exact absurd (Except.error.inj h) (by decide)

theorem makeAndEnter?_of_missing (h : tree.enter place name = .error .notFound) :
    tree.makeAndEnter? place name =
      some (tree.put (place ++ [name]) .directory, place ++ [name]) := by
  rw [makeAndEnter?, h]
  rfl

/-- What a name leads to once it was made and entered is led to by the name alone. -/
theorem enter_of_makeAndEnter? (h : tree.makeAndEnter? place name = some (after, next)) :
    Grows tree after ∧ after.enter place name = .ok next := by
  unfold makeAndEnter? at h
  split at h
  · rename_i henter
    obtain ⟨rfl, rfl⟩ := Prod.mk.inj (Option.some.inj h)
    exact ⟨Grows.refl tree, henter⟩
  · rename_i henter
    obtain ⟨rfl, rfl⟩ := Prod.mk.inj (Option.some.inj h)
    obtain ⟨hdirectory, hdot, hdotDot, hlong, hnone⟩ := enter_eq_notFound henter
    have hgrows : Grows tree (tree.put (place ++ [name]) .directory) := by
      have hensure : tree.ensure (place ++ [name]) = tree.put (place ++ [name]) .directory := by
        rw [ensure, if_neg (by simp [hnone])]
      exact hensure ▸ grows_ensure (by simp)
    exact ⟨hgrows, enter_eq_ok (hgrows.directory place hdirectory) hdot hdotDot hlong (by simp)⟩
  · simp at h

/-! ### Several names -/

theorem makeAndFollow?_append (tree : FileTree) (place : Location)
    (front back : List (List UInt8)) :
    tree.makeAndFollow? place (front ++ back) =
      (tree.makeAndFollow? place front).bind fun (made, next) => made.makeAndFollow? next back := by
  induction front generalizing tree place with
  | nil => rfl
  | cons name front ih =>
    rw [List.cons_append, makeAndFollow?, makeAndFollow?, Option.bind_assoc]
    exact congrArg _ (funext fun (made, next) => ih made next)

/-- Where names lead already, nothing is made. -/
theorem makeAndFollow?_of_follow (h : tree.follow place names = .ok next) :
    tree.makeAndFollow? place names = some (tree, next) := by
  induction names generalizing place with
  | nil => rw [makeAndFollow?, Except.ok.inj h]
  | cons name names ih =>
    rw [follow_cons] at h
    cases henter : tree.enter place name with
    | error cause => simp [henter, Except.bind] at h
    | ok entered =>
      rw [henter] at h
      rw [makeAndFollow?, makeAndEnter?, henter]
      exact ih h

/-- Names that fail to lead on are made to only if all that fails is that something is missing. -/
theorem makeAndFollow?_eq_none (h : tree.follow place names = .error cause)
    (hcause : cause ≠ .notFound) : tree.makeAndFollow? place names = none := by
  induction names generalizing place with
  | nil => simp [follow, pure, Except.pure] at h
  | cons name names ih =>
    rw [follow_cons] at h
    rw [makeAndFollow?, makeAndEnter?]
    cases henter : tree.enter place name with
    | error other =>
      rw [henter] at h
      obtain rfl := Except.error.inj h
      split <;> simp_all [OsError.notFound]
    | ok entered =>
      rw [henter] at h
      exact ih h

/-- Names lead where they were made to lead. -/
theorem follow_of_makeAndFollow? (h : tree.makeAndFollow? place names = some (after, next)) :
    Grows tree after ∧ after.follow place names = .ok next := by
  induction names generalizing tree place with
  | nil =>
    obtain ⟨rfl, rfl⟩ := Prod.mk.inj (Option.some.inj h)
    exact ⟨Grows.refl tree, rfl⟩
  | cons name names ih =>
    rw [makeAndFollow?] at h
    obtain ⟨⟨made, entered⟩, henter, hrest⟩ := Option.bind_eq_some_iff.mp h
    obtain ⟨hfirst, hentered⟩ := enter_of_makeAndEnter? henter
    obtain ⟨hsecond, hfollow⟩ := ih hrest
    refine ⟨hfirst.trans hsecond, ?_⟩
    rw [follow_cons, enter_mono hsecond hentered]
    exact hfollow

/-- From what is no directory, no names lead on, whatever is made. -/
theorem makeAndFollow?_of_not_directory (h : tree.find? place ≠ some .directory)
    (hne : names ≠ []) : tree.makeAndFollow? place names = none := by
  obtain ⟨name, names, rfl⟩ := List.exists_cons_of_ne_nil hne
  rw [makeAndFollow?, makeAndEnter?, enter_of_not_directory h]
  rfl

theorem follow_append (tree : FileTree) (place : Location) (front back : List (List UInt8)) :
    tree.follow place (front ++ back) =
      (tree.follow place front).bind fun next => tree.follow next back := by
  rw [follow, List.foldlM_append]
  rfl

/-- Dots lead nowhere else. -/
theorem follow_dots (hplace : tree.find? place = some .directory)
    (hdots : ∀ name ∈ names, name = dot) : tree.follow place names = .ok place := by
  induction names with
  | nil => rfl
  | cons name names ih =>
    obtain ⟨rfl, hrest⟩ := List.forall_mem_cons.mp hdots
    rw [follow_cons, enter_dot hplace]
    exact ih hrest

/-- Nothing is missing for a dot. -/
theorem follow_dots_ne_notFound (hdots : ∀ name ∈ names, name = dot) :
    tree.follow place names ≠ .error .notFound := by
  by_cases hplace : tree.find? place = some .directory
  · rw [follow_dots hplace hdots]
    simp
  · cases names with
    | nil => simp [follow, pure, Except.pure]
    | cons name names =>
      rw [follow_cons, enter_of_not_directory hplace]
      exact fun h => absurd (Except.error.inj h) (by decide)

theorem follow_ne_alreadyExists (tree : FileTree) (place : Location)
    (names : List (List UInt8)) : tree.follow place names ≠ .error .alreadyExists := by
  induction names generalizing place with
  | nil => simp [follow, pure, Except.pure]
  | cons name names ih =>
    rw [follow_cons]
    cases henter : tree.enter place name with
    | error cause =>
      intro h
      rw [Except.error.inj h] at henter
      exact enter_ne_alreadyExists _ _ _ henter
    | ok entered => exact ih entered

/-! ### A path -/

/-- A path that cannot be used is refused for itself, and not for what is on the disk. -/
theorem usable_eq_error (h : usable p = .error cause) (hne : p.bytes ≠ []) :
    cause ≠ .notFound ∧ cause ≠ .alreadyExists := by
  unfold usable at h
  split_ifs at h <;> rw [← Except.error.inj h] <;> decide

/-- A parent can be used where its child can, unless it is the empty path. -/
theorem usable_of_parent? {q : Path} (hparent : p.parent? = some q) (h : usable p = .ok ())
    (hne : q.bytes ≠ []) : usable q = .ok () := by
  obtain ⟨more, -, hbytes⟩ := bytes_of_parent? hparent
  have hzero := zero_not_mem_of_usable h
  rw [hbytes, List.mem_append, not_or] at hzero
  unfold usable at h ⊢
  split_ifs at h with hcontains hnil hlong
  have hlength : q.bytes.length ≤ p.bytes.length := by simp [hbytes]
  rw [if_neg (by simpa using hzero.1), if_neg hne, if_neg (by omega)]

theorem makeDirectory_of_not_usable (h : usable p = .error cause) :
    tree.makeDirectory here p = .error cause := by
  rw [makeDirectory, resolveParent, h]
  rfl

/-- What making one directory comes to, by what the name at the end of its path leads to: nothing
may be there yet, but all that is above. -/
theorem makeDirectory_eq (husable : usable p = .ok ()) (hnames : p.names = names ++ [name]) :
    tree.makeDirectory here p =
      match tree.follow (origin here p) names with
      | .error cause => .error cause
      | .ok place =>
        match tree.enter place name with
        | .ok _ => .error .alreadyExists
        | .error .notFound => .ok (tree.put (place ++ [name]) .directory)
        | .error cause => .error cause := by
  rw [makeDirectory, resolveParent, husable, hnames, List.getLast?_concat, List.dropLast_concat]
  dsimp only [bind, Except.bind]
  cases hfollow : tree.follow (origin here p) names with
  | error cause => rfl
  | ok place =>
    dsimp only
    rw [enter]
    cases hneed : tree.needDirectory place with
    | error cause =>
      have hplace : tree.find? place ≠ some .directory := by
        intro hdirectory
        rw [needDirectory_eq_ok_iff.mpr hdirectory] at hneed
        simp at hneed
      have hcause := enter_of_not_directory hplace name
      rw [enter, hneed] at hcause
      obtain rfl : cause = .notADirectory := Except.error.inj hcause
      rfl
    | ok =>
      dsimp only [bind, Except.bind]
      by_cases hdot : name = dot
      · simp [hdot]
      · by_cases hdotDot : name = dotDot
        · simp [hdotDot, show dotDot ≠ dot by decide]
        · simp only [hdot, hdotDot, or_self, if_false]
          split_ifs <;> rfl

/-- Nothing is made where the path leads somewhere. -/
theorem makeDirectory_of_follow (husable : usable p = .ok ()) (hnames : p.names ≠ [])
    (h : tree.follow (origin here p) p.names = .ok next) :
    tree.makeDirectory here p = .error .alreadyExists := by
  obtain ⟨front, last, hlast⟩ := (List.eq_nil_or_concat' p.names).resolve_left hnames
  rw [hlast, follow_concat] at h
  rw [makeDirectory_eq husable hlast]
  cases hfollow : tree.follow (origin here p) front with
  | error cause => simp [hfollow, Except.bind] at h
  | ok place =>
    rw [hfollow] at h
    have henter : tree.enter place last = .ok next := h
    simp only [henter]

/-- What keeps the path from leading on, unless it is that something is missing, keeps the directory
from being made. -/
theorem makeDirectory_of_follow_error (husable : usable p = .ok ()) (hnames : p.names ≠ [])
    (h : tree.follow (origin here p) p.names = .error cause) (hcause : cause ≠ .notFound) :
    tree.makeDirectory here p = .error cause := by
  obtain ⟨front, last, hlast⟩ := (List.eq_nil_or_concat' p.names).resolve_left hnames
  rw [hlast, follow_concat] at h
  rw [makeDirectory_eq husable hlast]
  cases hfollow : tree.follow (origin here p) front with
  | error other =>
    rw [hfollow] at h
    rw [Except.error.inj h]
  | ok place =>
    rw [hfollow] at h
    have henter : tree.enter place last = .error cause := h
    simp only [henter]
    split <;> simp_all [OsError.notFound]

theorem makeDirectory_of_missing_above (husable : usable p = .ok ())
    (hnames : p.names = names ++ [name])
    (h : tree.follow (origin here p) names = .error .notFound) :
    tree.makeDirectory here p = .error .notFound := by
  rw [makeDirectory_eq husable hnames, h]

theorem makeDirectory_of_missing (husable : usable p = .ok ()) (hnames : p.names = names ++ [name])
    (hfollow : tree.follow (origin here p) names = .ok place)
    (hmissing : tree.enter place name = .error .notFound) :
    tree.makeDirectory here p = .ok (tree.put (place ++ [name]) .directory) := by
  rw [makeDirectory_eq husable hnames, hfollow]
  simp only [hmissing]
  rfl

/-- If all that is above is there, only the last name remains to be made. -/
theorem withDirectories?_eq (hne : p.bytes ≠ []) (husable : usable p = .ok ())
    (hnames : p.names = names ++ [name])
    (hfollow : tree.makeAndFollow? (origin here p) names = some (after, place)) :
    tree.withDirectories? here p =
      (after.makeAndEnter? place name).bind fun (made, next) =>
        if made.find? next = some .directory then some made else none := by
  rw [withDirectories?, if_neg hne, if_pos husable, hnames, makeAndFollow?_append, hfollow,
    Option.bind_some]
  cases hlast : after.makeAndEnter? place name with
  | none => simp [makeAndFollow?, hlast]
  | some found => simp [makeAndFollow?, hlast]

/-- Once its directories are made, a path that is not empty leads to a directory. -/
theorem resolve_of_withDirectories? (h : tree.withDirectories? here p = some after)
    (hne : p.bytes ≠ []) : ∃ place, after.resolve here p = .ok (place, .directory) := by
  unfold withDirectories? at h
  rw [if_neg hne] at h
  split_ifs at h with husable
  obtain ⟨⟨made, place⟩, hmade, hfound⟩ := Option.bind_eq_some_iff.mp h
  dsimp only at hfound
  split_ifs at hfound with hdirectory
  obtain rfl := Option.some.inj hfound
  exact ⟨place, resolve_eq_directory_iff.mpr
    ⟨husable, (follow_of_makeAndFollow? hmade).2, hdirectory⟩⟩

variable {q : Path} {dots : List (List UInt8)} {last : List UInt8}

/-- Once the directories of its parent are made, a path can be followed up to its last name. -/
theorem follow_of_withDirectories? (hparent : p.parent? = some q) (hq : q.bytes ≠ [])
    (hdots : ∀ name ∈ dots, name = dot) (h : tree.withDirectories? here q = some after) :
    ∃ place, after.follow (origin here p) (q.names ++ dots) = .ok place := by
  obtain ⟨place, hresolve⟩ := resolve_of_withDirectories? h hq
  obtain ⟨-, hfollow, hdirectory⟩ := resolve_eq_directory_iff.mp hresolve
  have horigin : origin here q = origin here p := by
    rw [origin, origin, (leadsTowards_of_parent? hparent).isAbsolute]
  refine ⟨place, ?_⟩
  rw [← horigin, follow_append, hfollow]
  exact follow_dots hdirectory hdots

/-- The directories of a path are made after those of its parent. -/
theorem withDirectories?_of_parent? (hparent : p.parent? = some q) (husable : usable p = .ok ())
    (hq : q.bytes ≠ []) (hnames : p.names = q.names ++ dots ++ [last])
    (hdots : ∀ name ∈ dots, name = dot) :
    tree.withDirectories? here p =
      (tree.withDirectories? here q).bind fun made => made.withDirectories? here p := by
  have horigin : origin here q = origin here p := by
    rw [origin, origin, (leadsTowards_of_parent? hparent).isAbsolute]
  have hne := bytes_ne_nil_of_usable husable
  cases hway : tree.makeAndFollow? (origin here p) q.names with
  | none =>
    have hparent : tree.withDirectories? here q = none := by
      rw [withDirectories?, if_neg hq, if_pos (usable_of_parent? hparent husable hq), horigin, hway]
      rfl
    rw [hparent, withDirectories?, if_neg hne, if_pos husable, hnames, List.append_assoc,
      makeAndFollow?_append, hway]
    rfl
  | some found =>
    obtain ⟨made, place⟩ := found
    have hmade : tree.withDirectories? here q =
        if made.find? place = some .directory then some made else none := by
      rw [withDirectories?, if_neg hq, if_pos (usable_of_parent? hparent husable hq), horigin, hway]
      rfl
    by_cases hdirectory : made.find? place = some .directory
    · have hback : made.follow (origin here p) (q.names ++ dots) = .ok place := by
        rw [follow_append, (follow_of_makeAndFollow? hway).2]
        exact follow_dots hdirectory hdots
      have hforth : tree.makeAndFollow? (origin here p) (q.names ++ dots) = some (made, place) := by
        rw [makeAndFollow?_append, hway]
        exact makeAndFollow?_of_follow (follow_dots hdirectory hdots)
      rw [hmade, if_pos hdirectory, Option.bind_some, withDirectories?_eq hne husable hnames hforth,
        withDirectories?_eq hne husable hnames (makeAndFollow?_of_follow hback)]
    · have hlost : made.makeAndFollow? place (dots ++ [last]) = none :=
        makeAndFollow?_of_not_directory hdirectory (by simp)
      rw [hmade, if_neg hdirectory, withDirectories?, if_neg hne, if_pos husable, hnames,
        List.append_assoc, makeAndFollow?_append, hway, Option.bind_some]
      dsimp only
      rw [hlost]
      rfl

/-- The root is there, and the empty path asks for no directory. -/
theorem withDirectories?_of_parent?_eq_none (hp : p = ⟨[slash]⟩ ∨ p.EndsInStep)
    (hparent : p.parent? = none) : tree.withDirectories? here p = some tree := by
  rcases hp with rfl | ⟨first, rest, hsplit, hkept⟩
  · rfl
  · rw [parent?, hsplit] at hparent
    dsimp only at hparent
    rw [hkept] at hparent
    split at hparent
    · split_ifs at hparent with hfirst
      have hbytes := intercalate_splitAtSlashes p.bytes
      rw [hsplit, hfirst, List.intercalate_singleton] at hbytes
      rw [withDirectories?, if_pos hbytes.symm]
    · split at hparent <;> simp at hparent

end GoEnum.Disk.FileTree

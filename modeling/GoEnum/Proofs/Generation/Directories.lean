/-
  Making the directories of a path.

  Directories are asked for from the last one up, until one is there or can be made, and
  are then made from there down. For a path that ends in a segment that counts, as each
  parent does, this comes to following its names and making what is missing
  (`makesTree_ensureDirectories`); the proof is by induction on the ancestors. Whatever the
  path, and whether or not all its directories can be made, there are at most some more
  directories on its way afterwards (`widens_ensureDirectories`).
-/
import GoEnum.Generation.Output
import GoEnum.Proofs.Disk.Making
import GoEnum.Proofs.Disk.World

namespace GoEnum.Generation

open Disk FileTree GoEnum.Path

variable {world between after : World} {place : Location} {p q : Path} {name : List UInt8}
  {names : List (List UInt8)}

/-! ### One directory and those above it -/

/-- Asking for a directory changes nothing. -/
theorem run_isDirectory (p : Path) (world : World) :
    (isDirectory p : StateM World Bool).run world =
      (match world.tree.resolve world.here p with
        | .ok (_, .directory) => true
        | _ => false, world) := by
  have hplace : (Host.place p : StateM World _).run world = (_, world) := World.outcome_place p
  unfold isDirectory
  rw [StateT.run_bind, hplace]
  rcases world.tree.resolve world.here p with cause | ⟨place, _ | content⟩ <;> rfl

/-- A directory is made; or if something is there already, it has to be one. -/
theorem outcome_ensureDirectory (world : World) (p : Path) :
    world.outcome (ensureDirectory p) =
      match world.tree.makeDirectory world.here p with
      | .ok tree => (.ok (), { world with tree })
      | .error .alreadyExists =>
        (match world.tree.resolve world.here p with
          | .ok (_, .directory) => .ok ()
          | _ => .error .alreadyExists, world)
      | .error cause => (.error cause, world) := by
  have hmake : world.outcome (Host.makeDirectory p) =
      World.change (fun tree here => tree.makeDirectory here p) world := rfl
  rw [ensureDirectory, World.outcome_then, hmake, World.change]
  cases world.tree.makeDirectory world.here p with
  | ok tree => rfl
  | error cause =>
    dsimp only
    by_cases hcause : cause = .alreadyExists
    · subst hcause
      change world.outcome (isDirectory p >>= _) = _
      unfold World.outcome
      rw [StateT.run_bind, run_isDirectory]
      rcases world.tree.resolve world.here p with cause | ⟨place, _ | content⟩ <;> rfl
    · split
      · simp_all [OsError.alreadyExists]
      · split
        · simp_all
        · simp_all [OsError.alreadyExists]
        · rename_i heq
          rw [Except.error.inj heq]
          rfl

/-- Any other error is handed on. -/
theorem outcome_ensureDirectory_eq_error {cause : OsError}
    (h : world.tree.makeDirectory world.here p = .error cause) (hcause : cause ≠ .alreadyExists) :
    world.outcome (ensureDirectory p) = (.error cause, world) := by
  rw [outcome_ensureDirectory, h]
  split <;> simp_all [OsError.alreadyExists]

/-- Nothing else is done where a directory is there, or cannot be made for another cause than that
something is missing. -/
theorem outcome_ensureLineage_of_ne {made : Except OsError Unit} (above : List Path)
    (hfirst : world.outcome (ensureDirectory p) = (made, between))
    (hmade : made ≠ .error .notFound) :
    world.outcome (ensureLineage (p :: above)) = (made, between) := by
  rw [ensureLineage, World.outcome_then, hfirst]
  dsimp only
  split
  · exact absurd rfl hmade
  · rfl

/-- If something is missing, the directories above are made, and then the directory is tried
again. -/
theorem outcome_ensureLineage_of_missing (above : List Path)
    (hfirst : world.outcome (ensureDirectory p) = (.error .notFound, between)) :
    world.outcome (ensureLineage (p :: above)) =
      match between.outcome (ensureLineage above) with
      | (.ok (), later) => later.outcome (ensureDirectory p)
      | (.error cause, later) => (.error cause, later) := by
  rw [ensureLineage, World.outcome_then, hfirst]
  change between.outcome (ensureLineage above >>= _) = _
  rw [World.outcome_then]
  rcases between.outcome (ensureLineage above) with ⟨_ | _, later⟩ <;> rfl

/-! ### What is made -/

/-- Whether an operation, run in a world, succeeds and leaves just a tree behind; or if there is
none, whether it fails, and not because something is missing. -/
def MakesTree (operation : StateM World (Except OsError Unit)) (world : World) :
    Option FileTree → Prop
  | some tree => world.outcome operation = (.ok (), { world with tree })
  | none => ∃ cause after, cause ≠ .notFound ∧ world.outcome operation = (.error cause, after)

/-- A directory that cannot be made, and not because something is missing, ends it all. -/
theorem MakesTree.ensureLineage_cons {made : Option FileTree}
    (h : MakesTree (ensureDirectory p) world made) (above : List Path) :
    MakesTree (ensureLineage (p :: above)) world made := by
  cases made with
  | some tree => exact outcome_ensureLineage_of_ne above h (by simp)
  | none =>
    obtain ⟨cause, after, hcause, hfirst⟩ := h
    exact ⟨cause, after, hcause, outcome_ensureLineage_of_ne above hfirst (by simpa using hcause)⟩

/-- What becomes of a directory that something is missing for: those above it are made, and then it
is made in the tree with these. -/
theorem makesTree_of_missing {above : List Path} {made : Option FileTree}
    {result : FileTree → Option FileTree}
    (hfirst : world.outcome (ensureDirectory p) = (.error .notFound, world))
    (habove : MakesTree (ensureLineage above) world made)
    (hlast : ∀ tree, made = some tree →
      MakesTree (ensureDirectory p) { world with tree } (result tree)) :
    MakesTree (ensureLineage (p :: above)) world (made.bind result) := by
  have hcons := outcome_ensureLineage_of_missing above hfirst
  cases made with
  | none =>
    obtain ⟨cause, after, hcause, hrest⟩ := habove
    refine ⟨cause, after, hcause, ?_⟩
    rw [hcons, hrest]
  | some tree =>
    have hrest : world.outcome (ensureLineage above) = (.ok (), { world with tree }) := habove
    rw [hrest] at hcons
    have hmakes := hlast tree rfl
    rw [Option.bind_some]
    cases hresult : result tree with
    | none =>
      rw [hresult] at hmakes
      obtain ⟨cause, after, hcause, hlast⟩ := hmakes
      exact ⟨cause, after, hcause, hcons.trans hlast⟩
    | some last =>
      rw [hresult] at hmakes
      exact hcons.trans hmakes

/-- A directory that cannot be made, and for another cause than that something is missing or there
already. -/
theorem makesTree_none {cause : OsError}
    (h : world.tree.makeDirectory world.here p = .error cause) (hmissing : cause ≠ .notFound)
    (hnew : cause ≠ .alreadyExists) : MakesTree (ensureDirectory p) world none :=
  ⟨cause, world, hmissing, outcome_ensureDirectory_eq_error h hnew⟩

/-- A path that cannot be used keeps the directory from being made. -/
theorem makesTree_of_not_usable {cause : OsError} (hne : p.bytes ≠ [])
    (husable : usable p = .error cause) :
    MakesTree (ensureDirectory p) world (world.tree.withDirectories? world.here p) := by
  obtain ⟨hmissing, hnew⟩ := usable_eq_error husable hne
  rw [withDirectories?, if_neg hne, if_neg (by simp [husable])]
  exact makesTree_none (makeDirectory_of_not_usable husable) hmissing hnew

/-- So does whatever keeps a path from leading on, unless it is that something is missing. -/
theorem makesTree_of_blocked {cause : OsError} (hne : p.bytes ≠ []) (husable : usable p = .ok ())
    (hnames : p.names ≠ [])
    (hfollow : world.tree.follow (origin world.here p) p.names = .error cause)
    (hcause : cause ≠ .notFound) :
    MakesTree (ensureDirectory p) world (world.tree.withDirectories? world.here p) := by
  have hnew : cause ≠ .alreadyExists := by
    rintro rfl
    exact follow_ne_alreadyExists _ _ _ hfollow
  rw [withDirectories?, if_neg hne, if_pos husable, makeAndFollow?_eq_none hfollow hcause]
  exact makesTree_none (makeDirectory_of_follow_error husable hnames hfollow hcause) hcause hnew

/-- Where all that is above is there, the last directory is made, or is there, or cannot be. -/
theorem makesTree_ensureDirectory (hne : p.bytes ≠ []) (husable : usable p = .ok ())
    (hnames : p.names = names ++ [name])
    (hfollow : world.tree.follow (origin world.here p) names = .ok place) :
    MakesTree (ensureDirectory p) world (world.tree.withDirectories? world.here p) := by
  have hsome : p.names ≠ [] := by simp [hnames]
  have henter : world.tree.follow (origin world.here p) p.names = world.tree.enter place name := by
    rw [hnames, follow_concat, hfollow]
    rfl
  cases hnext : world.tree.enter place name with
  | ok next =>
    -- Something is there, and the system is asked whether it is a directory.
    rw [hnext] at henter
    have hmake := makeDirectory_of_follow husable hsome henter
    rw [withDirectories?, if_neg hne, if_pos husable, makeAndFollow?_of_follow henter,
      Option.bind_some]
    by_cases hdirectory : world.tree.find? next = some .directory
    · have hresolve := resolve_eq_directory_iff.mpr ⟨husable, henter, hdirectory⟩
      simp only [if_pos hdirectory, MakesTree]
      rw [outcome_ensureDirectory, hmake, hresolve]
      rfl
    · simp only [if_neg hdirectory, MakesTree]
      refine ⟨.alreadyExists, world, by decide, ?_⟩
      rw [outcome_ensureDirectory, hmake]
      rcases hresolve : world.tree.resolve world.here p with cause | ⟨found, _ | content⟩
      · rfl
      · obtain ⟨-, hfound, hthere⟩ := resolve_eq_directory_iff.mp hresolve
        rw [Except.ok.inj (henter.symm.trans hfound)] at hdirectory
        exact absurd hthere hdirectory
      · rfl
  | error cause =>
    by_cases hcause : cause = .notFound
    · subst hcause
      have hmake := makeDirectory_of_missing husable hnames hfollow hnext
      rw [withDirectories?_eq hne husable hnames (makeAndFollow?_of_follow hfollow),
        makeAndEnter?_of_missing hnext, Option.bind_some]
      simp only [find?_put_self, if_true, MakesTree]
      rw [outcome_ensureDirectory, hmake]
    · rw [hnext] at henter
      exact makesTree_of_blocked hne husable hsome henter hcause

/-- The directories of a path are made after those of its parent, if anything is missing. -/
theorem makesTree_ensureLineage_cons {above : List Path} (hparent : p.parent? = some q)
    (hends : p.EndsInStep) (world : World)
    (habove : MakesTree (ensureLineage above) world (world.tree.withDirectories? world.here q)) :
    MakesTree (ensureLineage (p :: above)) world (world.tree.withDirectories? world.here p) := by
  obtain ⟨dots, last, hnames, hdots⟩ := hends.names_eq hparent
  obtain ⟨more, hmore, hbytes⟩ := bytes_of_parent? hparent
  have hne : p.bytes ≠ [] := by simp [hbytes, hmore]
  have hsome : p.names ≠ [] := by simp [hnames]
  cases husable : usable p with
  | error cause => exact (makesTree_of_not_usable hne husable).ensureLineage_cons _
  | ok =>
    cases hfollow : world.tree.follow (origin world.here p) (q.names ++ dots) with
    | ok place =>
      exact (makesTree_ensureDirectory hne husable hnames hfollow).ensureLineage_cons _
    | error cause =>
      by_cases hcause : cause = .notFound
      · subst hcause
        have hfirst := outcome_ensureDirectory_eq_error
          (makeDirectory_of_missing_above husable hnames hfollow) (by decide)
        have hq : q.bytes ≠ [] := by
          intro hnil
          -- Nothing is missing before the first name.
          rw [names, hnil] at hfollow
          exact follow_dots_ne_notFound hdots hfollow
        rw [withDirectories?_of_parent? hparent husable hq hnames hdots]
        refine makesTree_of_missing hfirst habove fun made hmade => ?_
        obtain ⟨place, hthere⟩ := follow_of_withDirectories? hparent hq hdots hmade
        exact makesTree_ensureDirectory hne husable hnames hthere
      · have hall : world.tree.follow (origin world.here p) p.names = .error cause := by
          rw [hnames, follow_concat, hfollow]
          rfl
        exact (makesTree_of_blocked hne husable hsome hall hcause).ensureLineage_cons _

/-- All directories of a path are made, or one of them cannot be. -/
theorem makesTree_ensureLineage {count : Nat} (hcount : p.bytes.length ≤ count)
    (hp : p = ⟨[slash]⟩ ∨ p.EndsInStep) (world : World) :
    MakesTree (ensureLineage (lineageUpTo count p)) world
      (world.tree.withDirectories? world.here p) := by
  induction count generalizing p with
  | zero =>
    have hnil : p.bytes = [] := List.length_eq_zero_iff.mp (Nat.le_zero.mp hcount)
    rw [withDirectories?, if_pos hnil]
    rfl
  | succ count ih =>
    cases hparent : p.parent? with
    | none =>
      rw [lineageUpTo, hparent, withDirectories?_of_parent?_eq_none hp hparent]
      rfl
    | some q =>
      have hends : p.EndsInStep := by
        rcases hp with rfl | hends
        · rw [show parent? ⟨[slash]⟩ = none from rfl] at hparent
          simp at hparent
        · exact hends
      -- A parent is shorter, so what is left to count is enough for it.
      obtain ⟨more, hmore, hbytes⟩ := bytes_of_parent? hparent
      have hlength : q.bytes.length ≤ count := by
        have hpos := List.length_pos_iff.mpr hmore
        rw [hbytes, List.length_append] at hcount
        omega
      rw [lineageUpTo, hparent]
      exact makesTree_ensureLineage_cons hparent hends world
        (ih hlength (endsInStep_of_parent? hparent))

/-- Making the directories of a parent succeeds just where the tree can take them up, and leaves the
tree with them. -/
theorem makesTree_ensureDirectories {path : Path} (hparent : path.parent? = some p)
    (world : World) :
    MakesTree (ensureDirectories p) world (world.tree.withDirectories? world.here p) :=
  makesTree_ensureLineage (Nat.le_refl _) (endsInStep_of_parent? hparent) world

theorem exists_withDirectories?_of_ok {path : Path} (hparent : path.parent? = some p)
    (h : world.outcome (ensureDirectories p) = (.ok (), after)) :
    ∃ tree, world.tree.withDirectories? world.here p = some tree ∧ { world with tree } = after := by
  have hmakes := makesTree_ensureDirectories hparent world
  cases htree : world.tree.withDirectories? world.here p with
  | none =>
    rw [htree] at hmakes
    obtain ⟨cause, later, -, hfailed⟩ := hmakes
    exact absurd (congrArg Prod.fst (h.symm.trans hfailed)) (by simp)
  | some tree =>
    rw [htree] at hmakes
    exact ⟨tree, rfl, congrArg Prod.snd (hmakes.symm.trans h)⟩

theorem withDirectories?_eq_none_of_error {path : Path} {cause : OsError}
    (hparent : path.parent? = some p)
    (h : world.outcome (ensureDirectories p) = (.error cause, after)) :
    world.tree.withDirectories? world.here p = none := by
  have hmakes := makesTree_ensureDirectories hparent world
  cases htree : world.tree.withDirectories? world.here p with
  | none => rfl
  | some tree =>
    rw [htree] at hmakes
    exact absurd (congrArg Prod.fst (h.symm.trans hmakes)) (by simp)

/-! ### What is kept -/

/-- Whether a world is another one with at most some more directories on the way of a path. -/
structure Widens (p : Path) (world after : World) : Prop where
  /-- Only such directories are new. -/
  keeps : Keeps world.here p world.tree after.tree
  /-- The working directory stays. -/
  here : after.here = world.here

theorem Widens.refl (p : Path) (world : World) : Widens p world world :=
  ⟨Keeps.refl _ _ _, rfl⟩

theorem Widens.trans (hfirst : Widens p world between) (hsecond : Widens p between after) :
    Widens p world after :=
  ⟨hfirst.keeps.trans (hfirst.here ▸ hsecond.keeps), hsecond.here.trans hfirst.here⟩

theorem Widens.of_leadsTowards (h : Widens q world after) (hq : LeadsTowards q p) :
    Widens p world after :=
  ⟨h.keeps.of_leadsTowards hq, h.here⟩

/-- A directory is made or not, and if one is there already, the system is only asked about it. -/
theorem widens_ensureDirectory {result : Except OsError Unit}
    (h : world.outcome (ensureDirectory p) = (result, after)) : Widens p world after := by
  rw [outcome_ensureDirectory] at h
  cases hmake : world.tree.makeDirectory world.here p with
  | ok tree =>
    rw [hmake] at h
    obtain rfl : { world with tree } = after := congrArg Prod.snd h
    exact ⟨keeps_makeDirectory hmake, rfl⟩
  | error cause =>
    rw [hmake] at h
    obtain rfl : world = after := by
      split at h
      · simp_all
      · exact congrArg Prod.snd h
      · exact congrArg Prod.snd h
    exact Widens.refl p world

theorem widens_ensureLineage {ps : List Path} (hps : ∀ q ∈ ps, LeadsTowards q p)
    {result : Except OsError Unit} (h : world.outcome (ensureLineage ps) = (result, after)) :
    Widens p world after := by
  induction ps generalizing world after result with
  | nil =>
    obtain rfl : world = after := congrArg Prod.snd h
    exact Widens.refl p world
  | cons q above ih =>
    -- What is made for an ancestor is on its way, and so on the way of the path.
    obtain ⟨hq, habove⟩ := List.forall_mem_cons.mp hps
    rcases hfirst : world.outcome (ensureDirectory q) with ⟨made, between⟩
    have hwidens := (widens_ensureDirectory hfirst).of_leadsTowards hq
    by_cases hmade : made = .error .notFound
    · subst hmade
      rw [outcome_ensureLineage_of_missing above hfirst] at h
      rcases hrest : between.outcome (ensureLineage above) with ⟨ensured, later⟩
      have hlater := hwidens.trans (ih habove hrest)
      rw [hrest] at h
      cases ensured with
      | ok done => exact hlater.trans ((widens_ensureDirectory h).of_leadsTowards hq)
      | error cause =>
        obtain rfl : later = after := congrArg Prod.snd h
        exact hlater
    · rw [outcome_ensureLineage_of_ne above hfirst hmade] at h
      obtain rfl : between = after := congrArg Prod.snd h
      exact hwidens

theorem widens_ensureDirectories {result : Except OsError Unit}
    (h : world.outcome (ensureDirectories p) = (result, after)) : Widens p world after :=
  widens_ensureLineage (fun _ => leadsTowards_of_mem_lineage) h

end GoEnum.Generation

/-
  What comes of putting a text into a file, case by case.

  Any path will do here, also one that runs through a file or ends in a slash. The
  directories of its parent are made if the tree can take them up, and the parent leads
  to a directory then (`Prepared`). The file is opened if the path can be written to
  there, and is empty until the text is produced. So the cases are told apart by the tree
  as it was, by the one with the directories, and by the text (`writeGenerated_cases`).
-/
import GoEnum.Proofs.Generation.Delivery

namespace GoEnum.Generation

open Disk FileTree Text GoEnum.Path

variable {world between prepared after : World} {p path : Path} {failure : Failure}

/-! ### Making way for the file -/

/-- Whether a location has what it had before, unless it had nothing and is now a directory on the
way of the parent of a path. -/
def KeptAt (path : Path) (world after : World) (place : Location) : Prop :=
  after.tree.find? place = world.tree.find? place ∨
    ∃ parent, path.parent? = some parent ∧
      KeepsAt world.here parent world.tree after.tree place

/-- What was there is there as it was. -/
theorem KeptAt.find?_eq {place : Location} {entry : Entry} (h : KeptAt path world after place)
    (hentry : world.tree.find? place = some entry) : after.tree.find? place = some entry := by
  rcases h with hsame | ⟨parent, -, hkeeps⟩
  · rw [hsame, hentry]
  · exact hkeeps.find?_eq hentry

/-- Making the directory of a file, or failing to, changes nothing but that. -/
theorem keptAt_ensureParent {outcome : Except Failure Unit}
    (h : world.outcome (ensureParent path).run = (outcome, after)) :
    after.here = world.here ∧ ∀ place, KeptAt path world after place := by
  unfold ensureParent at h
  split at h
  · rename_i parent hparent
    have hafter : (world.outcome (ensureDirectories parent)).2 = after := congrArg Prod.snd h
    rcases hmake : world.outcome (ensureDirectories parent) with ⟨made, between⟩
    obtain rfl : between = after := by rw [← hafter, hmake]
    have hwidens := widens_ensureDirectories hmake
    exact ⟨hwidens.here, fun place => Or.inr ⟨parent, hparent, hwidens.keeps place⟩⟩
  · obtain rfl : world = after := congrArg Prod.snd h
    exact ⟨rfl, fun _ => Or.inl rfl⟩

/-- Whether the parent of a path leads to a directory, unless there is none or it is the empty
path, which stands for the working directory. -/
def HasParent (path : Path) (world : World) : Prop :=
  ∀ parent, path.parent? = some parent → parent.bytes ≠ [] →
    ∃ place, world.tree.resolve world.here parent = .ok (place, .directory)

/-- Whether a world is another one in which the directory that a file is put in has been made. -/
structure Prepared (path : Path) (world prepared : World) : Prop where
  /-- Without a parent, there is no directory to make. -/
  alone : path.parent? = none → prepared = world
  /-- The tree can take up the directories of the parent, and has them, -/
  made : ∀ parent, path.parent? = some parent →
    world.tree.withDirectories? world.here parent = some prepared.tree ∧
      world.outcome (ensureDirectories parent) = (.ok (), prepared)
  /-- so that the parent leads to a directory. -/
  directory : HasParent path prepared
  /-- The working directory stays, -/
  here : prepared.here = world.here
  /-- and so does all that was there. -/
  keptAt : ∀ place, KeptAt path world prepared place

theorem prepared_of_yields (h : Yields (ensureParent path) world () prepared) :
    Prepared path world prepared := by
  obtain ⟨hhere, hkept⟩ := keptAt_ensureParent h
  have hmade : ∀ parent, path.parent? = some parent →
      world.tree.withDirectories? world.here parent = some prepared.tree ∧
        world.outcome (ensureDirectories parent) = (.ok (), prepared) := by
    intro parent hparent
    rw [ensureParent, hparent] at h
    have hensured := yields_attempt.mp h
    obtain ⟨tree, htree, rfl⟩ := exists_withDirectories?_of_ok hparent hensured
    exact ⟨htree, hensured⟩
  refine ⟨fun hparent => ?_, hmade, fun parent hparent hne => ?_, hhere, hkept⟩
  · rw [ensureParent, hparent] at h
    exact (yields_pure.mp h).2.symm
  · rw [hhere]
    exact resolve_of_withDirectories? (hmade parent hparent).1 hne

/-- If the directories cannot be made, then that is because the tree cannot take them up, and the
failure names the parent and the cause that the system gives. -/
theorem cases_of_fails_ensureParent (h : Fails (ensureParent path) world failure after) :
    ∃ parent cause, path.parent? = some parent ∧
      world.tree.withDirectories? world.here parent = none ∧
      world.outcome (ensureDirectories parent) = (.error cause, after) ∧
      failure = .io parent cause := by
  unfold ensureParent at h
  split at h
  · rename_i parent hparent
    obtain ⟨cause, hfailed, rfl⟩ := fails_attempt.mp h
    exact ⟨parent, cause, hparent, withDirectories?_eq_none_of_error hparent hfailed, hfailed, rfl⟩
  · exact absurd h not_fails_pure

/-! ### The file -/

variable {place : Location} {content old : List UInt8}

/-- Whether the file at a path can be written to, while nothing else has changed. -/
structure OpenAt (path : Path) (world after : World) (place : Location) : Prop where
  /-- The place is that of the file, -/
  writable : after.tree.writable after.here path = .ok place
  /-- and no directory was there. -/
  not_directory : world.tree.find? place ≠ some .directory
  /-- The parent is a directory. -/
  directory : HasParent path after
  /-- Everything else is kept. -/
  keptAt : ∀ other, other ≠ place → KeptAt path world after other
  /-- The working directory stays. -/
  here : after.here = world.here

/-- Whether a file of some content is where a path leads, while nothing else has changed. -/
structure HoldsFile (path : Path) (world after : World) (place : Location)
    (content : List UInt8) : Prop extends OpenAt path world after place where
  /-- The path leads to the file. -/
  resolve : after.tree.resolve after.here path = .ok (place, .file content)

/-- Whatever the file held, it holds just what is stored in it. -/
theorem OpenAt.holdsFile_put (h : OpenAt path world between place) (content : List UInt8) :
    HoldsFile path world
      { between with tree := between.tree.put place (.file content) } place content := by
  obtain ⟨-, -, -, -, -, -, hnot⟩ := writable_eq_ok h.writable
  have hgrows : Grows between.tree (between.tree.put place (.file content)) :=
    grows_put_file hnot
  refine ⟨⟨writable_put h.writable content, h.not_directory, fun parent hparent hne => ?_,
    fun other hother => ?_, h.here⟩, resolve_put h.writable content⟩
  · obtain ⟨above, habove⟩ := h.directory parent hparent hne
    exact ⟨above, resolve_mono hgrows habove⟩
  · have hsame := find?_put_of_writable h.writable content hother
    rcases h.keptAt other hother with hkept | ⟨parent, hparent, hkeeps⟩
    · exact Or.inl (hsame.trans hkept)
    · exact Or.inr ⟨parent, hparent, hkeeps.mono hsame hgrows⟩

/-- The file can be opened in a directory that was made, unless the system refuses it. -/
theorem Prepared.openAt (h : Prepared path world prepared)
    (hwritable : prepared.tree.writable prepared.here path = .ok place) :
    OpenAt path world prepared place := by
  refine ⟨hwritable, fun hdirectory => ?_, h.directory, fun other _ => h.keptAt other, h.here⟩
  -- A directory would still be there when the file is opened.
  obtain ⟨-, -, -, -, -, -, hnot⟩ := writable_eq_ok hwritable
  exact hnot ((h.keptAt place).find?_eq hdirectory)

/-- Storing a text in the file succeeds. -/
theorem OpenAt.outcome_store (h : OpenAt path world between place) (content : List UInt8) :
    between.outcome (World.change fun tree here => tree.store here path content) =
      (.ok (), { between with tree := between.tree.put place (.file content) }) :=
  World.outcome_change_eq_ok.mpr ⟨_, store_eq_ok_iff.mpr ⟨place, h.writable, rfl⟩, rfl⟩

theorem HoldsFile.of_sameDisk (h : HoldsFile path world between place content)
    (hdisk : between.SameDisk after) : HoldsFile path world after place content := by
  obtain ⟨htree, hhere⟩ := hdisk
  refine ⟨⟨?_, h.not_directory, ?_, fun other hother => ?_, hhere.trans h.here⟩, ?_⟩
  · rw [htree, hhere, h.writable]
  · rw [HasParent, htree, hhere]
    exact h.directory
  · have hkept := h.keptAt other hother
    rwa [KeptAt, htree]
  · rw [htree, hhere, h.resolve]

/-- Opening the file empties it, if the path can be written to at all. -/
theorem outcome_openEmpty (world : World) (path : Path) :
    world.outcome (Host.openEmpty path) =
      match world.tree.writable world.here path with
      | .ok place => (.ok (), { world with tree := world.tree.put place (.file []) })
      | .error cause => (.error cause, world) := by
  have hopen : world.outcome (Host.openEmpty path) =
      World.change (fun tree here => tree.store here path []) world := rfl
  rw [hopen, World.change, store]
  cases world.tree.writable world.here path <;> rfl

/-! ### The text -/

variable {opened : World} {produce : Action (StateM World) String} {text : String}

/-- Whether producing a text, or failing to, changes nothing but the log. -/
def LeavesDisk (produce : Action (StateM World) String) : Prop :=
  ∀ world : World, world.SameDisk (world.outcome produce.run).2

theorem leavesDisk_ofExcept (outcome : Except Failure String) :
    LeavesDisk (Action.ofExcept outcome) :=
  fun _ => ⟨rfl, rfl⟩

/-- So the text of a listing is covered. -/
theorem leavesDisk_renderListing (listing : Listing) : LeavesDisk (renderListing listing) := by
  intro world
  rcases yields_or_fails (renderListing listing) world with ⟨text, after, h⟩ | ⟨failure, after, h⟩
  · obtain ⟨-, hafter⟩ := yields_renderListing_iff.mp h
    rw [h, ← hafter]
    exact ⟨rfl, rfl⟩
  · obtain ⟨-, -, hafter⟩ := fails_renderListing_iff.mp h
    rw [h, ← hafter]
    exact ⟨rfl, rfl⟩

/-- If there is a text, the file that was opened takes it. -/
theorem HoldsFile.yields_fillOutput (h : HoldsFile path world opened place old)
    (hproduce : LeavesDisk produce) (htext : Yields produce opened text between) :
    ∃ after, Yields (fillOutput path produce) opened () after ∧
      HoldsFile path world after place (Utf8.encode text) := by
  -- Until the text is written only the log changes.
  have hbetween : HoldsFile path world between place old := by
    refine h.of_sameDisk ?_
    have hdisk := hproduce opened
    rwa [htext] at hdisk
  let noted : World := { between with events := between.events ++
    [⟨.debug, .file, "Writing " ++ toString (Utf8.encode text).length ++ " bytes to "
      ++ path.shown⟩] }
  have hnoted : HoldsFile path world noted place old := hbetween.of_sameDisk ⟨rfl, rfl⟩
  have hwrite : noted.outcome (Host.write path (Utf8.encode text)) = _ :=
    hnoted.toOpenAt.outcome_store (Utf8.encode text)
  refine ⟨_, ?_, hnoted.toOpenAt.holdsFile_put (Utf8.encode text)⟩
  simp only [fillOutput, yields_bind, yields_note, yields_attempt]
  exact ⟨text, between, htext, (), noted, rfl, hwrite⟩

/-- If there is no text, the file that was opened stays as it is. -/
theorem HoldsFile.fails_fillOutput (h : HoldsFile path world opened place old)
    (hproduce : LeavesDisk produce) (hfails : Fails produce opened failure after) :
    Fails (fillOutput path produce) opened failure after ∧
      HoldsFile path world after place old := by
  refine ⟨fails_bind.mpr (Or.inl hfails), h.of_sameDisk ?_⟩
  have hdisk := hproduce opened
  rwa [hfails] at hdisk

/-! ### All cases -/

/-- There are three ways to end. Either the directories of the parent cannot be made: then that is
the failure, however the text is produced, and there are at most some more directories on the way
of the parent. Or they are made, but the file cannot be opened: then that is the failure, and
nothing else happens. Or it is opened, and then it is empty if the text cannot be produced, which
is the failure then, and holds just the text if it can, while everything else is kept. -/
theorem writeGenerated_cases (hproduce : LeavesDisk produce) (path : Path) (world : World) :
    (∃ parent cause after, path.parent? = some parent ∧
      world.tree.withDirectories? world.here parent = none ∧
      world.outcome (ensureDirectories parent) = (.error cause, after) ∧
      Fails (writeGenerated path produce) world (.io parent cause) after ∧
      after.here = world.here ∧ ∀ place, KeptAt path world after place) ∨
    ∃ prepared, Prepared path world prepared ∧
      ((∃ cause, prepared.tree.writable prepared.here path = .error cause ∧
        prepared.outcome (Host.openEmpty path) = (.error cause, prepared) ∧
        Fails (writeGenerated path produce) world (.io path cause) prepared) ∨
      ∃ opened place, prepared.tree.writable prepared.here path = .ok place ∧
        prepared.outcome (Host.openEmpty path) = (.ok (), opened) ∧
        ((∃ failure after, Fails produce opened failure after ∧
          Fails (writeGenerated path produce) world failure after ∧
          HoldsFile path world after place []) ∨
        ∃ text between after, Yields produce opened text between ∧
          Yields (writeGenerated path produce) world () after ∧
          HoldsFile path world after place (Utf8.encode text))) := by
  rw [writeGenerated_eq]
  rcases yields_or_fails (ensureParent path) world with ⟨⟨⟩, prepared, h⟩ | ⟨failure, after, h⟩
  · right
    have hprepared := prepared_of_yields h
    refine ⟨prepared, hprepared, ?_⟩
    have hopen := outcome_openEmpty prepared path
    cases hwritable : prepared.tree.writable prepared.here path with
    | error cause =>
      left
      rw [hwritable] at hopen
      have hfails : Fails (openOutput path) world (.io path cause) prepared :=
        fails_bind.mpr (Or.inr ⟨(), prepared, h, fails_attempt.mpr ⟨cause, hopen, rfl⟩⟩)
      exact ⟨cause, rfl, hopen, fails_bind.mpr (Or.inl hfails)⟩
    | ok place =>
      right
      rw [hwritable] at hopen
      have hholds := (hprepared.openAt hwritable).holdsFile_put []
      refine ⟨_, place, rfl, hopen, ?_⟩
      have hyields : Yields (openOutput path) world () _ :=
        yields_bind.mpr ⟨(), prepared, h, yields_attempt.mpr hopen⟩
      rcases yields_or_fails produce { prepared with tree := prepared.tree.put place (.file []) }
        with ⟨text, between, htext⟩ | ⟨failure, after, hfails⟩
      · right
        obtain ⟨after, hfill, hfile⟩ := hholds.yields_fillOutput hproduce htext
        exact ⟨text, between, after, htext, yields_bind.mpr ⟨(), _, hyields, hfill⟩, hfile⟩
      · left
        obtain ⟨hfill, hfile⟩ := hholds.fails_fillOutput hproduce hfails
        exact ⟨failure, after, hfails, fails_bind.mpr (Or.inr ⟨(), _, hyields, hfill⟩), hfile⟩
  · left
    obtain ⟨parent, cause, hparent, htree, hmake, rfl⟩ := cases_of_fails_ensureParent h
    have hfails : Fails (openOutput path) world (.io parent cause) after :=
      fails_bind.mpr (Or.inl h)
    exact ⟨parent, cause, after, hparent, htree, hmake, fails_bind.mpr (Or.inl hfails),
      keptAt_ensureParent h⟩

/-- The fresh working directory with a file in it. -/
def worldWithFile (name : String) (content : List UInt8) : World :=
  { World.fresh with
    tree := World.fresh.tree.put (World.fresh.here ++ [Utf8.encode name]) (.file content) }

theorem writeGenerated_cases_nested :
    LeavesDisk (renderListing ⟨"goenum", ⟨.int none, "Size", ["Small"]⟩, false⟩) ∧
    LeavesDisk (Action.ofExcept (.error .rendering)) ∧
    (worldWithFile "size" [0x30]).tree.find? [Utf8.encode "work", Utf8.encode "a"] = none ∧
    (∃ text after,
      Listing.render? ⟨"goenum", ⟨.int none, "Size", ["Small"]⟩, false⟩ = some text ∧
      Yields (writeGenerated (.ofText "a/b/size")
        (renderListing ⟨"goenum", ⟨.int none, "Size", ["Small"]⟩, false⟩))
        (worldWithFile "size" [0x30]) () after ∧
      (∃ place, after.tree.resolve after.here (.ofText "a/b") = .ok (place, .directory)) ∧
      after.tree.read after.here (.ofText "a/b/size") = .ok (Utf8.encode text) ∧
      after.tree.find? [Utf8.encode "work", Utf8.encode "size"] = some (.file [0x30])) ∧
    ∃ after, Fails (writeGenerated (.ofText "size") (Action.ofExcept (.error .rendering)))
        (worldWithFile "size" [0x30]) .rendering after ∧
      after.tree.read after.here (.ofText "size") = .ok [] := by
  have hlisting := leavesDisk_renderListing ⟨"goenum", ⟨.int none, "Size", ["Small"]⟩, false⟩
  have hfailing := leavesDisk_ofExcept (.error .rendering)
  refine ⟨hlisting, hfailing, by decide, ?_, ?_⟩
  · have hrender :
        (Listing.render? ⟨"goenum", ⟨.int none, "Size", ["Small"]⟩, false⟩).isSome = true := rfl
    obtain ⟨text, htext⟩ := Option.isSome_iff_exists.mp hrender
    have hparent : (Path.ofText "a/b/size").parent? = some (.ofText "a/b") := by decide
    have htree : (worldWithFile "size" [0x30]).tree.withDirectories?
        (worldWithFile "size" [0x30]).here (.ofText "a/b") ≠ none := by decide
    rcases writeGenerated_cases hlisting (.ofText "a/b/size") (worldWithFile "size" [0x30]) with
      ⟨parent, cause, after, hother, hnone, -⟩ | ⟨prepared, hprepared, h⟩
    · obtain rfl := Option.some.inj (hparent.symm.trans hother)
      exact absurd hnone htree
    have hwritable : prepared.tree.writable prepared.here (.ofText "a/b/size") =
        .ok [Utf8.encode "work", Utf8.encode "a", Utf8.encode "b", Utf8.encode "size"] := by
      rw [hprepared.here, ← Option.some.inj (hprepared.made _ hparent).1]
      decide
    rcases h with ⟨cause, hrefused, -⟩ | ⟨opened, place, hplace, -, ⟨failure, after, hfails, -⟩ |
      ⟨written, between, after, hwritten, hyields, hfile⟩⟩
    · exact absurd (hwritable.symm.trans hrefused) (by simp)
    · obtain ⟨hnone, -⟩ := fails_renderListing_iff.mp hfails
      exact absurd (htext.symm.trans hnone) (by simp)
    · obtain ⟨hsome, -⟩ := yields_renderListing_iff.mp hwritten
      obtain rfl := Option.some.inj (htext.symm.trans hsome)
      obtain rfl := Except.ok.inj (hwritable.symm.trans hplace)
      refine ⟨text, after, htext, hyields, hfile.directory _ hparent (by decide), ?_, ?_⟩
      · rw [FileTree.read, hfile.resolve]
      · exact (hfile.keptAt _ (by decide)).find?_eq (by decide)
  · have hparent : (Path.ofText "size").parent? = some (.ofText "") := by decide
    rcases writeGenerated_cases hfailing (.ofText "size") (worldWithFile "size" [0x30]) with
      ⟨parent, cause, after, hother, hnone, -⟩ | ⟨prepared, hprepared, h⟩
    · obtain rfl := Option.some.inj (hparent.symm.trans hother)
      exact absurd hnone (by decide)
    have hwritable : prepared.tree.writable prepared.here (.ofText "size") =
        .ok [Utf8.encode "work", Utf8.encode "size"] := by
      rw [hprepared.here, ← Option.some.inj (hprepared.made _ hparent).1]
      decide
    rcases h with ⟨cause, hrefused, -⟩ | ⟨opened, place, -, -, ⟨failure, after, hproduced, hfails,
      hfile⟩ | ⟨written, between, after, hwritten, -⟩⟩
    · exact absurd (hwritable.symm.trans hrefused) (by simp)
    · obtain ⟨hfailure, -⟩ := fails_ofExcept.mp hproduced
      obtain rfl := Except.error.inj hfailure
      exact ⟨after, hfails, by rw [FileTree.read, hfile.resolve]⟩
    · obtain ⟨hnone, -⟩ := yields_ofExcept.mp hwritten
      exact absurd hnone (by simp)

end GoEnum.Generation

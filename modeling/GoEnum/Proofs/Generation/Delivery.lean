/-
  What a generating run does to the tree.

  For a name that is an identifier, a run succeeds just if the tree accommodates the
  output file and the listing has a text, and then it delivers the text
  (`yields_generate`, `delivered_of_yields`). If the listing has no text, the file is
  opened and left empty (`fails_generate_of_none`). Before the file is opened only the
  target can be at fault, and then the world is as it was (`failure_of_fails_generate`).
-/
import GoEnum.Generation.Run
import GoEnum.Proofs.Generation.Creation
import GoEnum.Proofs.Generation.Written
import GoEnum.Proofs.Naming.EntryNames

namespace GoEnum

open Disk FileTree Text GoEnum.Path

/-! ### The entries of a request -/

namespace Request

/-- The name of the directory that the file is put in. -/
def directoryEntry (request : Request) : List UInt8 :=
  Utf8.encode request.packageName

/-- The name of the file in that directory. -/
def fileEntry (request : Request) : List UInt8 :=
  Utf8.encode (Naming.fileName request.enumeration.name)

theorem isEntryName_directoryEntry (request : Request)
    (h : Lexeme.isIdentifier request.enumeration.name = true) :
    IsEntryName request.directoryEntry :=
  Naming.isEntryName_packageName h

theorem isEntryName_fileEntry (request : Request)
    (h : Lexeme.isIdentifier request.enumeration.name = true) :
    IsEntryName request.fileEntry :=
  Naming.isEntryName_fileName h

/-- Whether a tree can take up the output file, below the location that the target leads to. -/
abbrev IsAccommodated (request : Request) (tree : FileTree) (here place : Location) : Prop :=
  Generation.Accommodates tree here request.target request.directoryEntry request.fileEntry place

/-- The tree with the output file of some content below a location. -/
abbrev delivered (request : Request) (tree : FileTree) (place : Location)
    (content : List UInt8) : FileTree :=
  tree.deliver place request.directoryEntry request.fileEntry content

end Request

namespace Generation

variable {world after : World} {place : Location} {request : Request} {settings : Settings}
  {arguments : List String} {failure : Failure}

/-! ### The request -/

/-- The arguments make a request, and only the log changes. -/
theorem yields_makeRequest_iff {target : Path} {acceptEmpty : Bool} {words : List String} :
    Yields (makeRequest target acceptEmpty words) world request after ↔
      Request.ofArguments target acceptEmpty words = .ok request ∧
        { world with events := world.events ++ [⟨.debug, .request, request.shown⟩] } = after := by
  unfold makeRequest
  cases Request.ofArguments target acceptEmpty words with
  | error cause => simp
  | ok made =>
    simp only [yields_bind, yields_note, yields_pure, Except.ok.injEq]
    constructor
    · rintro ⟨_, _, rfl, rfl, rfl⟩
      exact ⟨rfl, rfl⟩
    · rintro ⟨rfl, rfl⟩
      exact ⟨(), _, rfl, rfl, rfl⟩

theorem fails_makeRequest_iff {target : Path} {acceptEmpty : Bool} {words : List String} :
    Fails (makeRequest target acceptEmpty words) world failure after ↔
      ∃ cause, Request.ofArguments target acceptEmpty words = .error cause ∧
        .usage cause.message = failure ∧ world = after := by
  unfold makeRequest
  cases Request.ofArguments target acceptEmpty words with
  | error cause => simp
  | ok made =>
    simp only [fails_bind, not_fails_note, not_fails_pure]
    simp

/-! ### The target -/

theorem yields_validateTarget_iff {target : Path} {result : Unit} :
    Yields (validateTarget target) world result after ↔
      (∃ place, world.tree.resolve world.here target = .ok (place, .directory)) ∧
        world = after := by
  unfold validateTarget
  simp only [yields_bind, yields_attempt, World.outcome_place]
  cases hresolve : world.tree.resolve world.here target with
  | error cause => simp [Except.map]
  | ok found =>
    obtain ⟨place, _ | content⟩ := found <;> simp [Except.map, Entry.asPlace]

/-- A target that is at fault leaves the world as it is. -/
theorem failure_of_fails_validateTarget {target : Path}
    (h : Fails (validateTarget target) world failure after) :
    (∃ text, failure = .configuration text) ∧ world = after := by
  unfold validateTarget at h
  simp only [fails_bind, fails_attempt, yields_attempt, World.outcome_place] at h
  cases hresolve : world.tree.resolve world.here target with
  | error cause =>
    simp [hresolve, Except.map, inaccessible] at h
    exact ⟨⟨_, h.2.symm⟩, h.1⟩
  | ok found =>
    obtain ⟨place, _ | content⟩ := found <;> simp [hresolve, Except.map, Entry.asPlace] at h
    exact ⟨⟨_, h.1.symm⟩, h.2⟩

/-! ### The text -/

/-- The event with which the text of a listing is produced. -/
def renderingEvent (listing : Listing) : Log.Event :=
  ⟨.trace, .rendering,
    "Rendering " ++ listing.enumeration.kind.label ++ " enum " ++ listing.enumeration.name⟩

theorem yields_renderListing_iff {listing : Listing} {text : String} :
    Yields (renderListing listing) world text after ↔
      listing.render? = some text ∧
        { world with events := world.events ++ [renderingEvent listing] } = after := by
  unfold renderListing
  simp only [yields_bind, yields_note]
  cases listing.render? with
  | none => simp
  | some rendered => simp [renderingEvent]

theorem fails_renderListing_iff {listing : Listing} :
    Fails (renderListing listing) world failure after ↔
      listing.render? = none ∧ .fieldTooWide = failure ∧
        { world with events := world.events ++ [renderingEvent listing] } = after := by
  unfold renderListing
  simp only [fails_bind, not_fails_note, yields_note, false_or]
  cases listing.render? with
  | none => simp [renderingEvent]
  | some rendered => simp

/-! ### The file -/

/-- Puts the text into the output file, after it was opened. -/
def fillOutput (path : Path) (produce : Action (StateM World) String) :
    Action (StateM World) Unit := do
  let bytes := Utf8.encode (← produce)
  Action.note .debug .file
    ("Writing " ++ toString bytes.length ++ " bytes to " ++ path.shown)
  Action.attempt (.io path) (Host.write path bytes)

theorem writeGenerated_eq (path : Path) (produce : Action (StateM World) String) :
    writeGenerated path produce = openOutput path >>= fun _ => fillOutput path produce := by
  rw [openOutput, bind_assoc]
  rfl

/-- Putting a text into a file fails where the directory or the file cannot be made or written, or
where the text cannot be produced. -/
theorem failure_of_fails_writeGenerated {path : Path} {produce : Action (StateM World) String}
    (h : Fails (writeGenerated path produce) world failure after) :
    (∃ blamed cause, failure = .io blamed cause) ∨
      ∃ before, Fails produce before failure after := by
  simp only [writeGenerated_eq, openOutput, fillOutput, fails_bind, fails_attempt,
    not_fails_note, false_or] at h
  rcases h with (hparent | ⟨_, _, -, cause, -, rfl⟩) |
    ⟨_, before, -, hproduce | ⟨_, _, -, _, _, -, cause, -, rfl⟩⟩
  · unfold ensureParent at hparent
    split at hparent
    · obtain ⟨cause, -, rfl⟩ := fails_attempt.mp hparent
      exact Or.inl ⟨_, cause, rfl⟩
    · exact absurd hparent not_fails_pure
  · exact Or.inl ⟨path, cause, rfl⟩
  · exact Or.inr ⟨before, hproduce⟩
  · exact Or.inl ⟨path, cause, rfl⟩

variable {tree : FileTree} {here : Location}

/-- The output file is opened just where the tree accommodates it. -/
theorem yields_openOutput (events : List Log.Event)
    (htarget : tree.resolve here request.target = .ok (place, .directory))
    (hname : Lexeme.isIdentifier request.enumeration.name = true) :
    Yields (openOutput request.outputFile) ⟨tree, here, events⟩ () after ↔
      request.IsAccommodated tree here place ∧
        ⟨request.delivered tree place [], here, events⟩ = after :=
  yields_openOutput_iff ⟨tree, here, events⟩ htarget
    (request.isEntryName_directoryEntry hname) (request.isEntryName_fileEntry hname)

/-- The opened file takes its content. -/
theorem outcome_write (h : request.IsAccommodated tree here place)
    (hname : Lexeme.isIdentifier request.enumeration.name = true) (content : List UInt8)
    (events : List Log.Event) :
    World.outcome ⟨request.delivered tree place [], here, events⟩
        (Host.write request.outputFile content) =
      (.ok (), ⟨request.delivered tree place content, here, events⟩) :=
  World.outcome_change_eq_ok.mpr ⟨_, store_deliver h (request.isEntryName_directoryEntry hname)
    (request.isEntryName_fileEntry hname) content, rfl⟩

/-- The file is opened, and the text of a listing is put into it. -/
theorem yields_writeGenerated {listing : Listing} {text : String}
    (h : request.IsAccommodated tree here place)
    (hname : Lexeme.isIdentifier request.enumeration.name = true)
    (hrender : listing.render? = some text) (events : List Log.Event) :
    ∃ events', Yields (writeGenerated request.outputFile (renderListing listing))
      ⟨tree, here, events⟩ () ⟨request.delivered tree place (Utf8.encode text), here, events'⟩ := by
  have hopen := (yields_openOutput events h.resolves hname).mpr ⟨h, rfl⟩
  rw [writeGenerated_eq]
  simp only [fillOutput, yields_bind, yields_renderListing_iff, yields_note, yields_attempt]
  exact ⟨_, (), _, hopen, text, _, ⟨hrender, rfl⟩, (), _, rfl, outcome_write h hname _ _⟩

/-- If a listing has no text, the file that was opened stays empty. -/
theorem fails_writeGenerated {listing : Listing}
    (h : request.IsAccommodated tree here place)
    (hname : Lexeme.isIdentifier request.enumeration.name = true)
    (hrender : listing.render? = none) (events : List Log.Event) :
    ∃ events', Fails (writeGenerated request.outputFile (renderListing listing))
      ⟨tree, here, events⟩ .fieldTooWide ⟨request.delivered tree place [], here, events'⟩ := by
  have hopen := (yields_openOutput events h.resolves hname).mpr ⟨h, rfl⟩
  rw [writeGenerated_eq]
  refine ⟨events ++ [renderingEvent listing],
    fails_bind.mpr (Or.inr ⟨(), _, hopen, fails_bind.mpr (Or.inl ?_)⟩)⟩
  exact fails_renderListing_iff.mpr ⟨hrender, rfl, rfl⟩

/-! ### The whole run -/

/-- If the tree accommodates the file and there is a text, the run succeeds and delivers it. -/
theorem yields_generate {text : String}
    (h : request.IsAccommodated world.tree world.here place)
    (hname : Lexeme.isIdentifier request.enumeration.name = true)
    (hrender : (listingOf settings request arguments).render? = some text) :
    ∃ after, Yields (generate settings request arguments) world request.outputFile after ∧
      after.tree = request.delivered world.tree place (Utf8.encode text) ∧
      after.here = world.here := by
  unfold generate
  simp only [yields_bind, yields_validateTarget_iff, yields_note, yields_pure]
  obtain ⟨events', hwrite⟩ := yields_writeGenerated h hname hrender _
  exact ⟨_, ⟨(), world, ⟨⟨place, h.resolves⟩, rfl⟩, (), _, rfl, (), _, hwrite, (), _, rfl, trivial,
    rfl⟩, rfl, rfl⟩

/-- If the tree accommodates the file but there is no text, the run breaks off and leaves the file
empty. -/
theorem fails_generate_of_none
    (h : request.IsAccommodated world.tree world.here place)
    (hname : Lexeme.isIdentifier request.enumeration.name = true)
    (hrender : (listingOf settings request arguments).render? = none) :
    ∃ after, Fails (generate settings request arguments) world .fieldTooWide after ∧
      after.tree = request.delivered world.tree place [] ∧ after.here = world.here := by
  unfold generate
  simp only [fails_bind, yields_validateTarget_iff, yields_note]
  obtain ⟨events', hwrite⟩ := fails_writeGenerated h hname hrender _
  exact ⟨_, Or.inr ⟨(), world, ⟨⟨place, h.resolves⟩, rfl⟩, Or.inr ⟨(), _, rfl, Or.inl hwrite⟩⟩,
    rfl, rfl⟩

/-- A run that succeeds found a tree that accommodates the file. -/
theorem isAccommodated_of_yields {path : Path}
    (hname : Lexeme.isIdentifier request.enumeration.name = true)
    (h : Yields (generate settings request arguments) world path after) :
    ∃ place, request.IsAccommodated world.tree world.here place := by
  unfold generate at h
  simp only [writeGenerated_eq, yields_bind, yields_validateTarget_iff, yields_note] at h
  obtain ⟨_, _, ⟨⟨place, hplace⟩, rfl⟩, _, _, rfl, _, _, ⟨_, _, hopen, -⟩, -⟩ := h
  exact ⟨place, ((yields_openOutput _ hplace hname).mp hopen).1⟩

/-- A run that succeeds has delivered the text of its listing. -/
theorem delivered_of_yields {path : Path}
    (hname : Lexeme.isIdentifier request.enumeration.name = true)
    (h : Yields (generate settings request arguments) world path after) :
    ∃ place text, request.IsAccommodated world.tree world.here place ∧
      (listingOf settings request arguments).render? = some text ∧
      path = request.outputFile ∧
      after.tree = request.delivered world.tree place (Utf8.encode text) ∧
      after.here = world.here := by
  obtain ⟨place, hplace⟩ := isAccommodated_of_yields hname h
  cases hrender : (listingOf settings request arguments).render? with
  | none =>
    obtain ⟨other, hfails, -⟩ := fails_generate_of_none hplace hname hrender
    exact absurd hfails h.not_fails
  | some text =>
    obtain ⟨other, hyields, htree, hhere⟩ := yields_generate hplace hname hrender
    obtain ⟨rfl, rfl⟩ := h.unique hyields
    exact ⟨place, text, hplace, rfl, rfl, htree, hhere⟩

/-- What was delivered is read back. -/
theorem written_of_delivered {text : String}
    (h : request.IsAccommodated world.tree world.here place)
    (hname : Lexeme.isIdentifier request.enumeration.name = true)
    (htree : after.tree = request.delivered world.tree place (Utf8.encode text))
    (hhere : after.here = world.here) : Written after request.outputFile text := by
  rw [Written, htree, hhere]
  exact FileTree.read_store (store_deliver h (request.isEntryName_directoryEntry hname)
    (request.isEntryName_fileEntry hname) (Utf8.encode text))

/-- What a run can fail with: the target is at fault and nothing has changed, or the directory or
the file could not be made or written, or there is no text. -/
theorem failure_of_fails_generate
    (h : Fails (generate settings request arguments) world failure after) :
    ((∃ text, failure = .configuration text) ∧ world = after) ∨
      (∃ path cause, failure = .io path cause) ∨ failure = .fieldTooWide := by
  unfold generate at h
  simp only [fails_bind, not_fails_note, not_fails_pure, false_or, and_false, exists_false,
    or_false] at h
  rcases h with htarget | ⟨_, _, -, _, _, -, hwrite⟩
  · exact Or.inl (failure_of_fails_validateTarget htarget)
  · rcases failure_of_fails_writeGenerated hwrite with hio | ⟨before, hproduce⟩
    · exact Or.inr (Or.inl hio)
    · exact Or.inr (Or.inr (fails_renderListing_iff.mp hproduce).2.1.symm)

end Generation

end GoEnum

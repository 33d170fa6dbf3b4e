/-
  What a run of the program does to the disk.

  A run that ends with status 0 has found a request, its settings and a directory to
  put the file into, and has delivered the text (`finds_of_yields_execute`); and
  whenever all that is there, the run ends so (`Finds.yields_execute`). There is one
  request, one text and one place to find (`Finds.unique`). The steps before the
  delivery only read: until the settings are loaded and the target is looked at, the
  disk is as it was (`failure_of_fails_execute`).
-/
import GoEnum.Proofs.Program.Ending
import GoEnum.Proofs.Source.Marker

namespace GoEnum

open Disk FileTree Text

namespace Program

open CommandLine

variable {arguments : List Path} {options : Options} {world after : World} {failure : Failure}
  {report : Report} {settings : Settings} {place : Location} {text : String}

/-! ### The settings -/

/-- Whether the settings of a run are those: the defaults if no file is named, and else what the
file spells. -/
def HasSettings (world : World) : Option Path → Settings → Prop
  | none, settings => settings = {}
  | some path, settings =>
    ∃ bytes, world.tree.read world.here path = .ok bytes ∧ Settings.parse bytes = .ok settings

theorem hasSettings_of_sameDisk {config : Option Path} {other : World}
    (hsame : world.SameDisk other) (h : HasSettings world config settings) :
    HasSettings other config settings := by
  cases config with
  | none => exact h
  | some path => rwa [HasSettings, hsame.tree, hsame.here]

theorem HasSettings.unique {config : Option Path} {other : Settings}
    (h : HasSettings world config settings) (h' : HasSettings world config other) :
    settings = other := by
  cases config with
  | none => exact h.trans h'.symm
  | some path =>
    obtain ⟨bytes, hread, hparse⟩ := h
    obtain ⟨bytes', hread', hparse'⟩ := h'
    obtain rfl := Except.ok.inj (hread.symm.trans hread')
    exact Except.ok.inj (hparse.symm.trans hparse')

theorem ofContent_eq_ok_iff {path : Path} {bytes : List UInt8} :
    Settings.ofContent path bytes = .ok settings ↔ Settings.parse bytes = .ok settings := by
  unfold Settings.ofContent
  cases Settings.parse bytes <;> simp [Except.mapError]

theorem outcome_read {path : Path} :
    world.outcome (Host.read path) = (world.tree.read world.here path, world) :=
  rfl

theorem yields_settings {config : Option Path} (h : HasSettings world config settings) :
    ∃ after, Yields (Program.settings config) world settings after ∧ world.SameDisk after := by
  cases config with
  | none => exact ⟨world, yields_pure.mpr ⟨h.symm, rfl⟩, rfl, rfl⟩
  | some path =>
    obtain ⟨bytes, hread, hparse⟩ := h
    simp only [Program.settings, Settings.load, yields_bind, yields_note, yields_attempt,
      yields_ofExcept, outcome_read, ofContent_eq_ok_iff, Prod.mk.injEq]
    exact ⟨_, ⟨(), _, rfl, bytes, _, ⟨hread, rfl⟩, hparse, rfl⟩, rfl, rfl⟩

theorem hasSettings_of_yields {config : Option Path}
    (h : Yields (Program.settings config) world settings after) :
    HasSettings world config settings ∧ world.SameDisk after := by
  cases config with
  | none =>
    obtain ⟨hdefault, rfl⟩ := yields_pure.mp h
    exact ⟨hdefault.symm, rfl, rfl⟩
  | some path =>
    simp only [Program.settings, Settings.load, yields_bind, yields_note, yields_attempt,
      yields_ofExcept, outcome_read, ofContent_eq_ok_iff, Prod.mk.injEq] at h
    obtain ⟨_, _, rfl, bytes, _, ⟨hread, rfl⟩, hparse, rfl⟩ := h
    exact ⟨⟨bytes, hread, hparse⟩, rfl, rfl⟩

/-- Settings that cannot be had leave the disk as it is. -/
theorem failure_of_fails_settings {config : Option Path}
    (h : Fails (Program.settings config : Action (StateM World) Settings) world failure after) :
    (∃ text, failure = .configuration text) ∧ world.SameDisk after := by
  cases config with
  | none => exact absurd h not_fails_pure
  | some path =>
    simp only [Program.settings, Settings.load, fails_bind, not_fails_note, false_or, yields_note,
      fails_attempt, yields_attempt, fails_ofExcept, outcome_read, Prod.mk.injEq] at h
    obtain ⟨_, _, rfl, ⟨cause, ⟨-, rfl⟩, rfl⟩ | ⟨bytes, _, ⟨-, rfl⟩, hcontent, rfl⟩⟩ := h
    · cases cause <;> exact ⟨⟨_, rfl⟩, rfl, rfl⟩
    · unfold Settings.ofContent at hcontent
      cases hparse : Settings.parse bytes with
      | ok spelt => simp [hparse, Except.mapError] at hcontent
      | error fault =>
        simp [hparse, Except.mapError] at hcontent
        exact ⟨⟨_, hcontent.symm⟩, rfl, rfl⟩

/-! ### Runs that succeed -/

/-- What a run finds on its way: a request that makes sense, its settings, room for the file below
the directory that the target leads to, and a text. -/
structure Finds (arguments : List Path) (options : Options) (world : World) (kind : Kind)
    (name : String) (values : List String) (settings : Settings) (place : Location)
    (text : String) : Prop where
  /-- The positional arguments are a token of the kind, the name and the values. -/
  words : ∃ token, options.words = token :: name :: values ∧ Kind.parse token = .ok kind
  /-- There are values, -/
  values_ne_nil : values ≠ []
  /-- and they can be used with the name. -/
  names : Naming.check name kind values = .ok ()
  /-- The settings are the defaults or those of the file that is named. -/
  hasSettings : HasSettings world options.config settings
  /-- The file can be made. -/
  accommodated : Generation.Accommodates world.tree world.here options.directory
    (Utf8.encode (Naming.packageName name)) (Utf8.encode (Naming.packageName name ++ ".gen.go"))
    place
  /-- The text is that of the enumeration, with all arguments of the process in its first line. -/
  text : Listing.render?
    ⟨Shell.commandLine settings.programName (arguments.map Path.shown), ⟨kind, name, values⟩,
      options.empty || settings.acceptEmpty⟩ = some text

/-- What a run does to the disk: the file of an enumeration has a text, its directory is there,
and all else is as it was. -/
structure Delivers (world after : World) (target : Path) (name : String) (place : Location)
    (text : String) : Prop where
  /-- The text is read back at the path of the file. -/
  written : Generation.Written after ((target.join (.ofText (Naming.packageName name))).join
    (.ofText (Naming.packageName name ++ ".gen.go"))) text
  /-- It is in a file below the target, -/
  file : after.tree.find? (place ++ [Utf8.encode (Naming.packageName name),
    Utf8.encode (Naming.packageName name ++ ".gen.go")]) = some (.file (Utf8.encode text))
  /-- in the directory of the package. -/
  directory : after.tree.find? (place ++ [Utf8.encode (Naming.packageName name)]) =
    some .directory
  /-- Nothing else has changed, -/
  others : ∀ other, other ≠ place ++ [Utf8.encode (Naming.packageName name)] →
    other ≠ place ++ [Utf8.encode (Naming.packageName name),
      Utf8.encode (Naming.packageName name ++ ".gen.go")] →
    after.tree.find? other = world.tree.find? other
  /-- and the working directory is the same. -/
  here : after.here = world.here

variable {kind : Kind} {name : String} {values : List String}

/-- A run finds one thing: its options, the files and the tree leave no choice. -/
theorem Finds.unique {kind' : Kind} {name' : String} {values' : List String}
    {settings' : Settings} {place' : Location} {text' : String}
    (h : Finds arguments options world kind name values settings place text)
    (h' : Finds arguments options world kind' name' values' settings' place' text') :
    kind = kind' ∧ name = name' ∧ values = values' ∧ settings = settings' ∧ place = place' ∧
      text = text' := by
  obtain ⟨token, hwords, hkind⟩ := h.words
  obtain ⟨token', hwords', hkind'⟩ := h'.words
  obtain ⟨rfl, rfl, rfl⟩ : token = token' ∧ name = name' ∧ values = values' := by
    simpa using hwords.symm.trans hwords'
  obtain rfl : kind = kind' := Except.ok.inj (hkind.symm.trans hkind')
  obtain rfl := h.hasSettings.unique h'.hasSettings
  have hplace := h.accommodated.resolves.symm.trans h'.accommodated.resolves
  have htext := h.text.symm.trans h'.text
  exact ⟨rfl, rfl, rfl, rfl, congrArg Prod.fst (Except.ok.inj hplace), Option.some.inj htext⟩

/-- The request that a run has found. -/
theorem Finds.ofArguments_eq_ok
    (h : Finds arguments options world kind name values settings place text) :
    Request.ofArguments options.directory options.empty options.words =
      .ok ⟨options.directory, options.empty, ⟨kind, name, values⟩⟩ := by
  obtain ⟨token, hwords, hkind⟩ := h.words
  exact Request.ofArguments_eq_ok_iff.mpr ⟨token, name, kind, values, hwords, h.values_ne_nil,
    hkind, Naming.check_eq_ok_iff.mp h.names, rfl⟩

theorem Finds.isIdentifier_name
    (h : Finds arguments options world kind name values settings place text) :
    Lexeme.isIdentifier name = true :=
  Request.isIdentifier_of_ofArguments h.ofArguments_eq_ok

/-- What the file is generated from. -/
theorem Finds.listingOf_render?
    (h : Finds arguments options world kind name values settings place text) :
    (Generation.listingOf settings ⟨options.directory, options.empty, ⟨kind, name, values⟩⟩
      (arguments.map Path.shown)).render? = some text :=
  h.text

/-- A run that finds all it needs succeeds. -/
theorem Finds.yields_execute
    (h : Finds arguments options world kind name values settings place text) :
    ∃ after, Yields (execute options arguments) world () after := by
  obtain ⟨made, hmade, hsame⟩ : ∃ made, Yields (Generation.makeRequest options.directory
      options.empty options.words) world
      ⟨options.directory, options.empty, ⟨kind, name, values⟩⟩ made ∧ world.SameDisk made :=
    ⟨_, Generation.yields_makeRequest_iff.mpr ⟨h.ofArguments_eq_ok, rfl⟩, rfl, rfl⟩
  obtain ⟨loaded, hloaded, hsame'⟩ := yields_settings (hasSettings_of_sameDisk hsame h.hasSettings)
  have haccommodated := h.accommodated
  rw [← hsame.tree, ← hsame.here, ← hsame'.tree, ← hsame'.here] at haccommodated
  obtain ⟨generated, hgenerated, -⟩ :=
    Generation.yields_generate haccommodated h.isIdentifier_name h.listingOf_render?
  simp only [execute, yields_bind, yields_note]
  exact ⟨_, _, made, hmade, _, loaded, hloaded, _, generated, hgenerated, rfl⟩

theorem delivers_of_delivered {request : Request}
    (h : request.IsAccommodated world.tree world.here place)
    (hname : Lexeme.isIdentifier request.enumeration.name = true)
    (htree : after.tree = request.delivered world.tree place (Utf8.encode text))
    (hhere : after.here = world.here) :
    Delivers world after request.target request.enumeration.name place text := by
  obtain ⟨target, acceptEmpty, ⟨kind, name, values⟩⟩ := request
  have hfind : ∀ other, after.tree.find? other =
      if other = place ++ [Utf8.encode (Naming.packageName name),
        Utf8.encode (Naming.packageName name ++ ".gen.go")] then some (.file (Utf8.encode text))
      else if other = place ++ [Utf8.encode (Naming.packageName name)] then some .directory
      else world.tree.find? other := by
    rw [htree]
    exact h.find?_deliver (Utf8.encode text)
  exact {
    written := Generation.written_of_delivered h hname htree hhere
    file := by rw [hfind, if_pos rfl]
    directory := by rw [hfind, if_neg (by simp), if_pos rfl]
    others := fun other hdirectory hfile => by rw [hfind, if_neg hfile, if_neg hdirectory]
    here := hhere }

/-- A run that succeeds has found what it needs, and has delivered the text. -/
theorem finds_of_yields_execute (h : Yields (execute options arguments) world () after) :
    ∃ kind name values settings place text,
      Finds arguments options world kind name values settings place text ∧
        Delivers world after options.directory name place text := by
  simp only [execute, yields_bind, yields_note] at h
  obtain ⟨request, made, hmade, settings, loaded, hloaded, path, generated, hgenerated, rfl⟩ := h
  obtain ⟨hrequest, rfl⟩ := Generation.yields_makeRequest_iff.mp hmade
  obtain ⟨hsettings, hsame⟩ := hasSettings_of_yields hloaded
  have hname := Request.isIdentifier_of_ofArguments hrequest
  obtain ⟨place, text, haccommodated, hrender, -, htree, hhere⟩ :=
    Generation.delivered_of_yields hname hgenerated
  rw [hsame.tree, hsame.here] at haccommodated
  rw [hsame.tree] at htree
  rw [hsame.here] at hhere
  have hdelivers := delivers_of_delivered haccommodated hname htree hhere
  obtain ⟨token, name, kind, values, hwords, hvalues, hkind, hcompatible, rfl⟩ :=
    Request.ofArguments_eq_ok_iff.mp hrequest
  exact ⟨kind, name, values, settings, place, text,
    ⟨⟨token, hwords, hkind⟩, hvalues, Naming.check_eq_ok_iff.mpr hcompatible,
      hasSettings_of_sameDisk ⟨rfl, rfl⟩ hsettings, haccommodated, hrender⟩,
    -- The last note changes the log only, so each part holds of the world after it.
    ⟨hdelivers.written, hdelivers.file, hdelivers.directory, hdelivers.others, hdelivers.here⟩⟩

/-! ### Runs that fail -/

/-- What a run can fail with. A fault of the arguments, the settings or the target leaves the disk
as it is. -/
theorem failure_of_fails_execute (h : Fails (execute options arguments) world failure after) :
    (((∃ text, failure = .usage text) ∨ ∃ text, failure = .configuration text) ∧
        world.SameDisk after) ∨
      (∃ path cause, failure = .io path cause) ∨ failure = .fieldTooWide := by
  simp only [execute, fails_bind, not_fails_note, and_false, exists_false, or_false] at h
  rcases h with hmake | ⟨request, made, hmade, hload | ⟨settings, loaded, hloaded, hgenerate⟩⟩
  · obtain ⟨cause, -, rfl, rfl⟩ := Generation.fails_makeRequest_iff.mp hmake
    exact Or.inl ⟨Or.inl ⟨_, rfl⟩, rfl, rfl⟩
  · obtain ⟨-, rfl⟩ := Generation.yields_makeRequest_iff.mp hmade
    obtain ⟨hcause, hsame⟩ := failure_of_fails_settings hload
    exact Or.inl ⟨Or.inr hcause, hsame.tree, hsame.here⟩
  · obtain ⟨-, rfl⟩ := Generation.yields_makeRequest_iff.mp hmade
    obtain ⟨-, hsame⟩ := hasSettings_of_yields hloaded
    rcases Generation.failure_of_fails_generate hgenerate with ⟨hcause, rfl⟩ | hlate
    · exact Or.inl ⟨Or.inr hcause, hsame.tree, hsame.here⟩
    · exact Or.inr hlate

/-- The status of a run that fails. The report changes nothing on the disk. -/
theorem status_of_fails (hread : CommandLine.read arguments = .ok options) {between : World}
    (hreports : Reports arguments world report after)
    (h : Fails (execute options arguments) world failure between) :
    report.status = failure.exitStatus ∧ between.SameDisk after := by
  by_cases hfailure : failure = .fieldTooWide
  · subst hfailure
    obtain ⟨rfl, rfl⟩ := hreports.unique (reports_of_fieldTooWide hread h)
    exact ⟨rfl, rfl, rfl⟩
  · obtain ⟨rfl, rfl⟩ := hreports.unique (reports_of_fails hread h hfailure)
    exact ⟨rfl, rfl, rfl⟩

theorem sameDisk_of_fails (hread : CommandLine.read arguments = .ok options) {between : World}
    (hreports : Reports arguments world report after)
    (h : Fails (execute options arguments) world failure between)
    (hearly : (∃ text, failure = .usage text) ∨ ∃ text, failure = .configuration text) :
    world.SameDisk after := by
  have hreported := (status_of_fails hread hreports h).2
  rcases failure_of_fails_execute h with ⟨-, hsame⟩ | hlate
  · exact ⟨hreported.tree.trans hsame.tree, hreported.here.trans hsame.here⟩
  · rcases hearly with ⟨_, rfl⟩ | ⟨_, rfl⟩ <;> simp at hlate

theorem exitStatus_ne_zero (failure : Failure) : failure.exitStatus ≠ 0 := by
  cases failure <;> simp [Failure.exitStatus]

theorem Finds.status_eq_zero (hread : CommandLine.read arguments = .ok options)
    (hreports : Reports arguments world report after)
    (h : Finds arguments options world kind name values settings place text) :
    report.status = 0 := by
  obtain ⟨ended, hyields⟩ := h.yields_execute
  rw [(hreports.unique (reports_of_yields hread hyields)).1]

/-- A run whose status is 0 has found what it needs and has delivered the text. -/
theorem finds_of_status_eq_zero (hread : CommandLine.read arguments = .ok options)
    (hreports : Reports arguments world report after) (hstatus : report.status = 0) :
    ∃ kind name values settings place text,
      Finds arguments options world kind name values settings place text ∧
        Delivers world after options.directory name place text := by
  rcases yields_or_fails (execute options arguments) world with
    ⟨_, ended, hyields⟩ | ⟨failure, between, hfails⟩
  · rw [(hreports.unique (reports_of_yields hread hyields)).2]
    exact finds_of_yields_execute hyields
  · exact absurd ((status_of_fails hread hreports hfails).1.symm.trans hstatus)
      (exitStatus_ne_zero failure)

/-- The effect of a run whose command line can be read: its status is 0 just if it has delivered
the text it is asked for; it is 2 for arguments that make no sense and 1 for settings or a target
that cannot be used, and the disk is as it was then; and it is 1 if something could not be written
or formatted. -/
theorem effect_of_reports (hread : CommandLine.read arguments = .ok options)
    (hreports : Reports arguments world report after) :
    (report.status = 0 ↔ ∃ kind name values settings place text,
      Finds arguments options world kind name values settings place text ∧
        Delivers world after options.directory name place text) ∧
    (∀ message between, Fails (execute options arguments) world (.usage message) between →
      report.status = 2 ∧ world.SameDisk after) ∧
    (∀ message between, Fails (execute options arguments) world (.configuration message) between →
      report.status = 1 ∧ world.SameDisk after) ∧
    (∀ path cause between, Fails (execute options arguments) world (.io path cause) between →
      report.status = 1) ∧
    ∀ between, Fails (execute options arguments) world .rendering between →
      report.status = 1 := by
  refine ⟨⟨finds_of_status_eq_zero hread hreports, ?_⟩, ?_, ?_, ?_, ?_⟩
  · rintro ⟨_, _, _, _, _, _, hfinds, -⟩
    exact hfinds.status_eq_zero hread hreports
  · intro message between hfails
    exact ⟨(status_of_fails hread hreports hfails).1,
      sameDisk_of_fails hread hreports hfails (Or.inl ⟨message, rfl⟩)⟩
  · intro message between hfails
    exact ⟨(status_of_fails hread hreports hfails).1,
      sameDisk_of_fails hread hreports hfails (Or.inr ⟨message, rfl⟩)⟩
  · intro path cause between hfails
    exact (status_of_fails hread hreports hfails).1
  · intro between hfails
    exact (status_of_fails hread hreports hfails).1

/-- The bytes of a settings file. -/
def genSettings : List UInt8 :=
  Utf8.encode "\x7b\"app_name\": \"gen\", \"allow_empty\": true\x7d"

theorem parse_genSettings : Settings.parse genSettings = .ok ⟨"gen", true⟩ := by
  have hparse : (Settings.parse genSettings).toOption = some ⟨"gen", true⟩ := by decide +kernel
  cases hread : Settings.parse genSettings with
  | error fault => simp [hread, Except.toOption] at hparse
  | ok settings => simpa [hread, Except.toOption] using hparse

/-- A working directory that holds settings and nothing else. -/
def configured : World :=
  let here : Location := [Utf8.encode "work"]
  ⟨⟨[(here, .directory), (here ++ [Utf8.encode "config.json"], .file genSettings)]⟩, here, []⟩

theorem effect_of_reports_color :
    CommandLine.read (["-c", "config.json", "string", "Color", "red"].map Path.ofText) =
      .ok ⟨0, false, some (.ofText "config.json"), none, ["string", "Color", "red"]⟩ ∧
    ∃ report after text,
      Reports (["-c", "config.json", "string", "Color", "red"].map Path.ofText) configured
        report after ∧
      report.status = 0 ∧
      Settings.parse genSettings = .ok ⟨"gen", true⟩ ∧
      Finds (["-c", "config.json", "string", "Color", "red"].map Path.ofText)
        ⟨0, false, some (.ofText "config.json"), none, ["string", "Color", "red"]⟩ configured
        .string "Color" ["red"] ⟨"gen", true⟩ [Utf8.encode "work"] text ∧
      Delivers configured after (.ofText ".") "Color" [Utf8.encode "work"] text ∧
      after.tree.read after.here (.ofText "./color/color.gen.go") = .ok (Utf8.encode text) ∧
      ∃ rest, text =
        "// Code generated by gen -c config.json string Color red; DO NOT EDIT.\n" ++ rest := by
  have hread : CommandLine.read (["-c", "config.json", "string", "Color", "red"].map Path.ofText) =
      .ok ⟨0, false, some (.ofText "config.json"), none, ["string", "Color", "red"]⟩ := by
    decide
  have hrender : (Listing.render? ⟨Shell.commandLine "gen"
      ((["-c", "config.json", "string", "Color", "red"].map Path.ofText).map Path.shown),
      ⟨.string, "Color", ["red"]⟩, true⟩).isSome = true := rfl
  obtain ⟨text, htext⟩ := Option.isSome_iff_exists.mp hrender
  have hfinds : Finds (["-c", "config.json", "string", "Color", "red"].map Path.ofText)
      ⟨0, false, some (.ofText "config.json"), none, ["string", "Color", "red"]⟩ configured .string
      "Color" ["red"] ⟨"gen", true⟩ [Utf8.encode "work"] text := {
    words := ⟨"string", rfl, by decide⟩
    values_ne_nil := by simp
    names := by decide
    hasSettings := ⟨genSettings, rfl, parse_genSettings⟩
    accommodated := ⟨by decide, by decide, by decide, by decide, by decide⟩
    text := htext }
  obtain ⟨after, hyields⟩ := hfinds.yields_execute
  have hreports := reports_of_yields hread hyields
  obtain ⟨kind, name, values, settings, place, found, hfound, hdelivers⟩ :=
    (effect_of_reports hread hreports).1.mp rfl
  obtain ⟨rfl, rfl, rfl, rfl, rfl, rfl⟩ := hfinds.unique hfound
  have hpath : ((Path.ofText ".").join (.ofText (Naming.packageName "Color"))).join
      (.ofText (Naming.packageName "Color" ++ ".gen.go")) = .ofText "./color/color.gen.go" := by
    decide
  have hwritten : after.tree.read after.here (.ofText "./color/color.gen.go") =
      .ok (Utf8.encode text) := by
    rw [← hpath]
    exact hdelivers.written
  refine ⟨hread, _, after, text, hreports, rfl, parse_genSettings, hfinds, hdelivers, hwritten, ?_⟩
  rw [Source.render?_eq] at htext
  obtain ⟨rest, -, rfl⟩ := Option.map_eq_some_iff.mp htext
  have hheader : Source.header (Shell.commandLine "gen"
      ((["-c", "config.json", "string", "Color", "red"].map Path.ofText).map Path.shown)) ++ "\n" =
      "// Code generated by gen -c config.json string Color red; DO NOT EDIT.\n" := by
    decide +kernel
  exact ⟨rest, by rw [hheader]⟩

end Program

end GoEnum

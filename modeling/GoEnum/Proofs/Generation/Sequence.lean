/-
  Runs one after the other into the same directory.

  Below a directory that was empty at first, there is a directory for each package
  that a run was successful for, with the one file that the latest of these runs
  delivered, and nothing else. One run keeps this up (`Reached.settled`), so all of
  them do (`reached_of_fits`). Whether a run is refused or succeeds is not a question
  of the runs before it (`allSettled_iff`), so runs for different packages can change
  places, and a run can be made again (`runs_compose`).
-/
import GoEnum.Proofs.Generation.Delivery
import GoEnum.Proofs.Request
import Mathlib.Data.List.Induction

namespace GoEnum.Generation

open Disk FileTree Text

/-! ### Runs -/

/-- What a run is given, apart from the target. -/
structure Job where
  /-- Whether the empty text is accepted. -/
  acceptEmpty : Bool
  /-- The positional arguments. -/
  words : List String
  /-- The settings of the project. -/
  settings : Settings
  /-- The arguments that are recorded. -/
  arguments : List String

namespace Job

variable (job : Job) (target : Path)

/-- The request that the job makes, or why it is refused. -/
def request : Except RequestError Request :=
  Request.ofArguments target job.acceptEmpty job.words

/-- Does the job. -/
def run : Action (StateM World) Path := do
  let request ← makeRequest target job.acceptEmpty job.words
  generate job.settings request job.arguments

/-- The world that the job leaves behind. -/
def leave (world : World) : World :=
  (world.outcome (job.run target).run).2

/-- Whether the job is refused or succeeds. -/
def Settled (world : World) : Prop :=
  (∃ cause, job.request target = .error cause) ∨
    ∃ path after, Yields (job.run target) world path after

/-- The package of the job and the text it generates; nothing if it is refused. -/
def output? : Option (String × String) :=
  match job.request target with
  | .error _ => none
  | .ok request =>
    (listingOf job.settings request job.arguments).render?.map fun text =>
      (request.packageName, text)

/-- The package that the job generates. -/
def package? : Option String :=
  (job.output? target).map Prod.fst

/-- Whether nothing about the job itself keeps it from being settled: if it is not refused, its
directory and its file can be named and its listing has a text. -/
def Fits : Prop :=
  ∀ request, job.request target = .ok request →
    HasRoom target request.directoryEntry ∧
      HasRoom (target.join ⟨request.directoryEntry⟩) request.fileEntry ∧
      (listingOf job.settings request job.arguments).render?.isSome = true

variable {job target} {world after : World} {request : Request} {cause : RequestError}

theorem fails_run (h : job.request target = .error cause) (world : World) :
    Fails (job.run target) world (.usage cause.message) world :=
  fails_bind.mpr (Or.inl (fails_makeRequest_iff.mpr ⟨cause, h, rfl, rfl⟩))

theorem yields_run_iff (h : job.request target = .ok request) {path : Path} :
    Yields (job.run target) world path after ↔
      Yields (generate job.settings request job.arguments)
        { world with events := world.events ++ [⟨.debug, .request, request.shown⟩] } path
        after := by
  simp only [run, yields_bind, yields_makeRequest_iff]
  constructor
  · rintro ⟨made, _, ⟨hmade, rfl⟩, hgenerate⟩
    obtain rfl := Except.ok.inj (h.symm.trans hmade)
    exact hgenerate
  · exact fun hgenerate => ⟨request, _, ⟨h, rfl⟩, hgenerate⟩

/-- A job that is not refused delivers its text where there is room for it. -/
theorem yields_run {place : Location} {text : String} (h : job.request target = .ok request)
    (haccommodated : request.IsAccommodated world.tree world.here place)
    (hrender : (listingOf job.settings request job.arguments).render? = some text) :
    ∃ after, Yields (job.run target) world request.outputFile after ∧
      after.tree = request.delivered world.tree place (Utf8.encode text) ∧
      after.here = world.here := by
  simp only [yields_run_iff h]
  exact yields_generate haccommodated (Request.isIdentifier_of_ofArguments h) hrender

theorem fits_of_refused (h : job.request target = .error cause) : job.Fits target := by
  intro request hrequest
  exact absurd (h.symm.trans hrequest) (by simp)

theorem fits_of_request (h : job.request target = .ok request)
    (hdirectory : HasRoom target request.directoryEntry)
    (hfile : HasRoom (target.join ⟨request.directoryEntry⟩) request.fileEntry)
    (hrender : (listingOf job.settings request job.arguments).render?.isSome = true) :
    job.Fits target := by
  intro other hother
  obtain rfl := Except.ok.inj (h.symm.trans hother)
  exact ⟨hdirectory, hfile, hrender⟩

/-- A job that succeeds could be named and had a text. -/
theorem fits_of_yields {path : Path} (h : Yields (job.run target) world path after) :
    job.Fits target := by
  intro request hrequest
  have hname := Request.isIdentifier_of_ofArguments hrequest
  obtain ⟨place, text, haccommodated, hrender, -⟩ :=
    delivered_of_yields hname ((yields_run_iff hrequest).mp h)
  obtain rfl := Request.target_of_ofArguments hrequest
  exact ⟨haccommodated.directoryRoom, haccommodated.fileRoom, by rw [hrender]; rfl⟩

theorem Settled.fits (h : job.Settled target world) : job.Fits target := by
  rcases h with ⟨cause, hrefused⟩ | ⟨path, after, hyields⟩
  · exact fits_of_refused hrefused
  · exact fits_of_yields hyields

/-- A job that is refused leaves no trace, not even in the log. -/
theorem leave_of_refused (h : job.request target = .error cause) (world : World) :
    job.leave target world = world := by
  rw [leave, fails_run h world]

theorem leave_of_yields {path : Path} (h : Yields (job.run target) world path after) :
    job.leave target world = after := by
  rw [leave, h]

theorem output?_of_refused (h : job.request target = .error cause) : job.output? target = none := by
  rw [output?, h]

theorem output?_of_render? {text : String} (h : job.request target = .ok request)
    (hrender : (listingOf job.settings request job.arguments).render? = some text) :
    job.output? target = some (request.packageName, text) := by
  rw [output?, h]
  simp [hrender]

/-- Of the jobs that are refused or succeed, those that succeed have an output. -/
theorem Settled.isSome_output?_iff (h : job.Settled target world) :
    (job.output? target).isSome = true ↔
      ∃ path after, Yields (job.run target) world path after := by
  cases hrequest : job.request target with
  | error cause =>
    have hnot : ¬∃ path after, Yields (job.run target) world path after := by
      rintro ⟨path, after, hyields⟩
      exact hyields.not_fails (fails_run hrequest world)
    simp [output?_of_refused hrequest, hnot]
  | ok request =>
    have hyields : ∃ path after, Yields (job.run target) world path after := by
      rcases h with ⟨cause, hrefused⟩ | hyields
      · exact absurd (hrefused.symm.trans hrequest) (by simp)
      · exact hyields
    obtain ⟨text, htext⟩ := Option.isSome_iff_exists.mp (h.fits request hrequest).2.2
    simp [output?_of_render? hrequest htext, hyields]

theorem package?_of_output? {package text : String}
    (h : job.output? target = some (package, text)) : job.package? target = some package := by
  rw [package?, h]
  rfl

end Job

/-- Does jobs one after the other, and gives the world that they leave behind. -/
def perform (target : Path) (jobs : List Job) (world : World) : World :=
  jobs.foldl (fun world job => job.leave target world) world

/-- Whether each of the jobs, at its turn, is refused or succeeds. -/
def AllSettled (target : Path) (jobs : List Job) (world : World) : Prop :=
  ∀ before job later, jobs = before ++ job :: later →
    job.Settled target (perform target before world)

/-- Whether a text is what the latest of the jobs for a package generates. -/
def IsLatest (target : Path) (jobs : List Job) (package text : String) : Prop :=
  ∃ before job later, jobs = before ++ job :: later ∧
    job.output? target = some (package, text) ∧
    ∀ other ∈ later, other.package? target ≠ some package

variable {target : Path} {world start : World} {place : Location} {job : Job} {jobs : List Job}

/-! ### The latest text -/

@[simp] theorem not_isLatest_nil {package text : String} : ¬IsLatest target [] package text := by
  rintro ⟨before, job, later, h, -⟩
  simp at h

theorem isLatest_append {first second : List Job} {package text : String} :
    IsLatest target (first ++ second) package text ↔
      IsLatest target second package text ∨
        (∀ other ∈ second, other.package? target ≠ some package) ∧
          IsLatest target first package text := by
  constructor
  · rintro ⟨before, job, later, h, hout, hlater⟩
    -- The job is in the one part or in the other.
    rcases List.append_eq_append_iff.mp h with ⟨rest, rfl, hsecond⟩ | ⟨rest, rfl, hrest⟩
    · exact Or.inl ⟨rest, job, later, hsecond, hout, hlater⟩
    · cases rest with
      | nil => exact Or.inl ⟨[], job, later, by simpa using hrest.symm, hout, hlater⟩
      | cons head rest =>
        obtain ⟨rfl, rfl⟩ : job = head ∧ later = rest ++ second := by simpa using hrest
        exact Or.inr ⟨fun other hother => hlater other (List.mem_append_right _ hother),
          before, job, rest, rfl, hout,
          fun other hother => hlater other (List.mem_append_left _ hother)⟩
  · rintro (⟨before, job, later, rfl, hout, hlater⟩ |
      ⟨hsecond, before, job, later, rfl, hout, hlater⟩)
    · exact ⟨first ++ before, job, later, by simp, hout, hlater⟩
    · refine ⟨before, job, later ++ second, by simp, hout, fun other hother => ?_⟩
      rcases List.mem_append.mp hother with hmem | hmem
      · exact hlater other hmem
      · exact hsecond other hmem

theorem isLatest_singleton {package text : String} :
    IsLatest target [job] package text ↔ job.output? target = some (package, text) := by
  constructor
  · rintro ⟨before, other, later, h, hout, -⟩
    cases before with
    | nil =>
      obtain ⟨rfl, -⟩ : job = other ∧ later = [] := by simpa [eq_comm] using h
      exact hout
    | cons head rest => simp at h
  · exact fun h => ⟨[], job, [], rfl, h, by simp⟩

/-- One more job makes the text for its package the latest one, and says nothing about others. -/
theorem isLatest_concat {package text : String} :
    IsLatest target (jobs ++ [job]) package text ↔
      job.output? target = some (package, text) ∨
        job.package? target ≠ some package ∧ IsLatest target jobs package text := by
  simp [isLatest_append, isLatest_singleton]

/-- There is a latest text for the packages of the jobs. -/
theorem exists_isLatest_iff {package : String} :
    (∃ text, IsLatest target jobs package text) ↔
      ∃ job ∈ jobs, job.package? target = some package := by
  induction jobs using List.reverseRecOn with
  | nil => simp
  | append_singleton jobs job ih =>
    have hjob : (∃ text, job.output? target = some (package, text)) ↔
        job.package? target = some package := by
      simp [Job.package?, Option.map_eq_some_iff]
    simp only [isLatest_concat, exists_or, exists_and_left, ih, hjob, List.mem_append,
      List.mem_singleton, or_and_right, exists_eq_left]
    by_cases hpackage : job.package? target = some package <;> simp [hpackage]

theorem isLatest_cons {package text : String} :
    IsLatest target (job :: jobs) package text ↔
      IsLatest target jobs package text ∨
        (∀ other ∈ jobs, other.package? target ≠ some package) ∧
          job.output? target = some (package, text) := by
  rw [← List.singleton_append, isLatest_append, isLatest_singleton]

/-- Jobs for different packages can change places. -/
theorem isLatest_swap {before later : List Job} {first second : Job} {package text : String}
    (h : first.package? target ≠ second.package? target) :
    IsLatest target (before ++ second :: first :: later) package text ↔
      IsLatest target (before ++ first :: second :: later) package text := by
  have houtput : ∀ job : Job, job.package? target ≠ some package →
      job.output? target ≠ some (package, text) :=
    fun job hjob hout => hjob (Job.package?_of_output? hout)
  -- One of the two is for another package, and says nothing about this one.
  rcases h.ne_or_ne (some package) with hfirst | hsecond
  · simp only [isLatest_append, isLatest_cons, List.mem_cons, forall_eq_or_imp, hfirst,
      houtput first hfirst, ne_eq, not_false_eq_true, and_false, or_false, true_and]
  · simp only [isLatest_append, isLatest_cons, List.mem_cons, forall_eq_or_imp, hsecond,
      houtput second hsecond, ne_eq, not_false_eq_true, and_false, or_false, true_and]

/-- A job can be made again as long as no other one for its package has come. -/
theorem isLatest_repeat {before between later : List Job} {package text : String}
    (h : ∀ other ∈ between, other.package? target ≠ job.package? target) :
    IsLatest target (before ++ job :: (between ++ job :: later)) package text ↔
      IsLatest target (before ++ job :: (between ++ later)) package text := by
  by_cases hjob : job.package? target = some package
  · -- Between the two there is nothing for the package.
    have hbetween : ∀ other ∈ between, other.package? target ≠ some package :=
      fun other hother hsame => h other hother (hsame.trans hjob.symm)
    have hnone : ¬IsLatest target between package text := by
      rintro ⟨_, other, _, rfl, hout, -⟩
      exact hbetween other (by simp) (Job.package?_of_output? hout)
    simp only [isLatest_append, isLatest_cons, List.mem_append, List.mem_cons, or_imp, forall_and,
      forall_eq, hjob, hnone, ne_eq, not_true_eq_false, false_and, and_false, or_false, true_and,
      eq_true hbetween]
  · have hout : job.output? target ≠ some (package, text) :=
      fun hout => hjob (Job.package?_of_output? hout)
    simp only [isLatest_append, isLatest_cons, List.mem_append, List.mem_cons, or_imp, forall_and,
      forall_eq, hjob, hout, ne_eq, not_false_eq_true, and_false, or_false, true_and]

/-! ### What is below the target -/

/-- What is made for a package below the target: a directory, and in it the file with the text. -/
inductive IsOutput (package text : String) : List (List UInt8) → Entry → Prop where
  /-- The directory has the name of the package, -/
  | directory : IsOutput package text [Utf8.encode package] .directory
  /-- and the file has that name too, with an ending. -/
  | file : IsOutput package text [Utf8.encode package, Utf8.encode (package ++ ".gen.go")]
      (.file (Utf8.encode text))

theorem IsOutput.head? {package text : String} {names : List (List UInt8)} {entry : Entry}
    (h : IsOutput package text names entry) : names.head? = some (Utf8.encode package) := by
  cases h <;> rfl

/-- One name leads to a directory, and two to a file. -/
theorem IsOutput.entry_eq {package text : String} {names : List (List UInt8)} {entry : Entry}
    (h : IsOutput package text names entry) :
    entry = if names.length = 1 then .directory else .file (Utf8.encode text) := by
  cases h <;> rfl

/-- Whether a tree holds below a location just what is made for the latest text of each package,
and is like another tree everywhere else. -/
structure HoldsJust (start tree : FileTree) (place : Location)
    (latest : String → String → Prop) : Prop where
  /-- What is below the location. -/
  inside : ∀ names entry, names ≠ [] →
    (tree.find? (place ++ names) = some entry ↔
      ∃ package text, latest package text ∧ IsOutput package text names entry)
  /-- What is not below the location is as it was. -/
  outside : ∀ other, (∀ names, names ≠ [] → other ≠ place ++ names) →
    tree.find? other = start.find? other

/-- Trees that hold just the same are alike. -/
theorem HoldsJust.find?_eq {start tree other : FileTree} {latest latest' : String → String → Prop}
    (h : HoldsJust start tree place latest) (h' : HoldsJust start other place latest')
    (hlatest : ∀ package text, latest package text ↔ latest' package text) (location : Location) :
    tree.find? location = other.find? location := by
  by_cases hinside : ∃ names, names ≠ [] ∧ location = place ++ names
  · obtain ⟨names, hnames, rfl⟩ := hinside
    ext entry
    rw [h.inside names entry hnames, h'.inside names entry hnames]
    simp only [hlatest]
  · have houtside : ∀ names, names ≠ [] → location ≠ place ++ names :=
      fun names hnames heq => hinside ⟨names, hnames, heq⟩
    rw [h.outside location houtside, h'.outside location houtside]

/-- Delivering a text makes it the latest one for its package. -/
theorem HoldsJust.deliver {start tree : FileTree} {here : Location} {request : Request}
    {latest latest' : String → String → Prop} (h : HoldsJust start tree place latest)
    (haccommodated : request.IsAccommodated tree here place) (text : String)
    (hlatest : ∀ package content, latest' package content ↔
      request.packageName = package ∧ text = content ∨
        request.packageName ≠ package ∧ latest package content) :
    HoldsJust start (request.delivered tree place (Utf8.encode text)) place latest' := by
  have hfind := haccommodated.find?_deliver (Utf8.encode text)
  constructor
  · intro names entry hnames
    constructor
    · intro hentry
      rw [hfind] at hentry
      have hnew := (hlatest request.packageName text).mpr (Or.inl ⟨rfl, rfl⟩)
      split_ifs at hentry with hfile hdirectory
      · obtain rfl := List.append_cancel_left hfile
        obtain rfl := Option.some.inj hentry
        exact ⟨_, text, hnew, .file⟩
      · obtain rfl := List.append_cancel_left hdirectory
        obtain rfl := Option.some.inj hentry
        exact ⟨_, text, hnew, .directory⟩
      · obtain ⟨package, content, hold, houtput⟩ := (h.inside names entry hnames).mp hentry
        have hne : request.packageName ≠ package := by
          rintro rfl
          cases houtput with
          | directory => exact hdirectory rfl
          | file => exact hfile rfl
        exact ⟨package, content, (hlatest package content).mpr (Or.inr ⟨hne, hold⟩), houtput⟩
    · rintro ⟨package, content, hcontent, houtput⟩
      rw [hfind]
      rcases (hlatest package content).mp hcontent with ⟨rfl, rfl⟩ | ⟨hne, hold⟩
      · cases houtput with
        | directory =>
          rw [if_neg (by simp)]
          exact if_pos rfl
        | file => exact if_pos rfl
      · -- The first name is that of the package, so it tells one package from the other.
        have hhead : names.head? ≠ some request.directoryEntry := by
          rw [houtput.head?]
          exact fun heq => hne (Utf8.encode_injective (Option.some.inj heq)).symm
        rw [if_neg, if_neg]
        · exact (h.inside names entry hnames).mpr ⟨package, content, hold, houtput⟩
        · exact fun heq => hhead (by rw [List.append_cancel_left heq]; rfl)
        · exact fun heq => hhead (by rw [List.append_cancel_left heq]; rfl)
  · intro other hother
    rw [hfind, if_neg (hother _ (by simp)), if_neg (hother _ (by simp))]
    exact h.outside other hother

/-! ### One run -/

/-- Whether a target leads to a directory with nothing in it. -/
structure IsEmptyTarget (target : Path) (start : World) (place : Location) : Prop where
  /-- The target leads to the directory. -/
  resolves : start.tree.resolve start.here target = .ok (place, .directory)
  /-- Nothing is below it. -/
  empty : ∀ names, names ≠ [] → start.tree.find? (place ++ names) = none

/-- Whether a world has come from another one by runs into an empty target, after which some texts
are the latest ones. -/
structure Reached (start : World) (place : Location) (latest : String → String → Prop)
    (world : World) : Prop where
  /-- Just these texts are there. -/
  holds : HoldsJust start.tree world.tree place latest
  /-- The working directory is the same. -/
  here : world.here = start.here

variable {latest : String → String → Prop}

/-- The target still leads to the directory. -/
theorem Reached.resolves (h : Reached start place latest world)
    (hstart : IsEmptyTarget target start place) :
    world.tree.resolve world.here target = .ok (place, .directory) := by
  have hgrows : Grows start.tree world.tree := by
    have hkept : ∀ other entry, start.tree.find? other = some entry →
        world.tree.find? other = some entry := by
      intro other entry hentry
      rw [h.holds.outside other, hentry]
      rintro names hnames rfl
      exact absurd (hentry.symm.trans (hstart.empty names hnames)) (by simp)
    refine ⟨fun other hother => hkept other _ hother, fun other hother => ?_⟩
    obtain ⟨entry, hentry⟩ := Option.isSome_iff_exists.mp hother
    rw [hkept other entry hentry]
    rfl
  rw [h.here]
  exact resolve_mono hgrows hstart.resolves

/-- There is room for each output file: only directories are where directories have to be, and only
files where files have to be. -/
theorem Reached.isAccommodated {request : Request} (h : Reached start place latest world)
    (hstart : IsEmptyTarget request.target start place)
    (hdirectory : HasRoom request.target request.directoryEntry)
    (hfile : HasRoom (request.target.join ⟨request.directoryEntry⟩) request.fileEntry) :
    request.IsAccommodated world.tree world.here place where
  resolves := h.resolves hstart
  directoryRoom := hdirectory
  fileRoom := hfile
  directory := by
    cases hfind : world.tree.find? (place ++ [request.directoryEntry]) with
    | none => exact Or.inl rfl
    | some entry =>
      obtain ⟨_, _, -, houtput⟩ := (h.holds.inside _ entry (by simp)).mp hfind
      rw [houtput.entry_eq]
      exact Or.inr rfl
  file := by
    intro hfind
    obtain ⟨_, text, -, houtput⟩ := (h.holds.inside _ _ (by simp)).mp hfind
    have hentry : Entry.directory = .file (Utf8.encode text) := houtput.entry_eq
    simp at hentry

/-- A job that fits is settled in a world that was reached by jobs, and the world that it leaves
behind is reached by one job more. -/
theorem Reached.settled (h : Reached start place (IsLatest target jobs) world)
    (hstart : IsEmptyTarget target start place) (hfits : job.Fits target) :
    job.Settled target world ∧
      Reached start place (IsLatest target (jobs ++ [job])) (job.leave target world) := by
  cases hrequest : job.request target with
  | error cause =>
    have hout := Job.output?_of_refused hrequest
    have hlatest : IsLatest target (jobs ++ [job]) = IsLatest target jobs := by
      funext package text
      simp [isLatest_concat, hout, Job.package?]
    rw [Job.leave_of_refused hrequest, hlatest]
    exact ⟨Or.inl ⟨cause, hrequest⟩, h⟩
  | ok request =>
    obtain rfl := Request.target_of_ofArguments hrequest
    have hname := Request.isIdentifier_of_ofArguments hrequest
    obtain ⟨hdirectory, hfile, hrender⟩ := hfits request hrequest
    obtain ⟨text, htext⟩ := Option.isSome_iff_exists.mp hrender
    have haccommodated := h.isAccommodated hstart hdirectory hfile
    obtain ⟨after, hyields, htree, hhere⟩ := Job.yields_run hrequest haccommodated htext
    have hout := Job.output?_of_render? hrequest htext
    refine ⟨Or.inr ⟨_, after, hyields⟩, ?_⟩
    rw [Job.leave_of_yields hyields]
    refine ⟨?_, hhere.trans h.here⟩
    rw [htree]
    refine h.holds.deliver haccommodated text fun package content => ?_
    rw [isLatest_concat, hout, Job.package?_of_output? hout]
    simp

/-! ### All runs -/

theorem perform_concat (target : Path) (jobs : List Job) (job : Job) (world : World) :
    perform target (jobs ++ [job]) world = job.leave target (perform target jobs world) := by
  rw [perform, List.foldl_concat, ← perform]

/-- Jobs that fit reach a world in which the latest text of each package is there. -/
theorem reached_of_fits (hstart : IsEmptyTarget target start place)
    (hfits : ∀ job ∈ jobs, job.Fits target) :
    Reached start place (IsLatest target jobs) (perform target jobs start) := by
  induction jobs using List.reverseRecOn with
  | nil =>
    refine ⟨⟨fun names entry hnames => ?_, fun _ _ => rfl⟩, rfl⟩
    have hnone := hstart.empty names hnames
    simp [perform, hnone]
  | append_singleton jobs job ih =>
    rw [perform_concat]
    have hreached := ih fun other hother => hfits other (List.mem_append_left _ hother)
    exact (hreached.settled hstart (hfits job (by simp))).2

/-- Whether all jobs are settled is a question of each job alone, and not of what was done before
it. -/
theorem allSettled_iff (hstart : IsEmptyTarget target start place) :
    AllSettled target jobs start ↔ ∀ job ∈ jobs, job.Fits target := by
  constructor
  · intro h job hjob
    obtain ⟨before, later, rfl⟩ := List.append_of_mem hjob
    exact (h before job later rfl).fits
  · rintro hfits before job later rfl
    have hreached : Reached start place (IsLatest target before) (perform target before start) :=
      reached_of_fits hstart fun other hother => hfits other (List.mem_append_left _ hother)
    exact (hreached.settled hstart (hfits job (by simp))).1

/-- Whether two sequences of jobs leave the same directories and files behind. -/
def LeaveAlike (target : Path) (jobs other : List Job) (start : World) : Prop :=
  ∀ location, (perform target jobs start).tree.find? location =
    (perform target other start).tree.find? location

/-- What counts is the latest text of each package. -/
theorem leaveAlike_of_fits {other : List Job} (hstart : IsEmptyTarget target start place)
    (hjobs : ∀ job ∈ jobs, job.Fits target) (hother : ∀ job ∈ other, job.Fits target)
    (hlatest : ∀ package text, IsLatest target other package text ↔
      IsLatest target jobs package text) :
    LeaveAlike target other jobs start :=
  (reached_of_fits hstart hother).holds.find?_eq (reached_of_fits hstart hjobs).holds hlatest

/-- Jobs that are refused can be left out. -/
theorem perform_filter_isOk (target : Path) (jobs : List Job) (world : World) :
    perform target (jobs.filter fun job => (job.request target).isOk) world =
      perform target jobs world := by
  induction jobs generalizing world with
  | nil => rfl
  | cons job jobs ih =>
    cases hrequest : job.request target with
    | error cause =>
      rw [List.filter_cons_of_neg (by simp [hrequest, Except.isOk, Except.toBool]), ih, perform,
        perform, List.foldl_cons, Job.leave_of_refused hrequest]
    | ok request =>
      rw [List.filter_cons_of_pos (by simp [hrequest, Except.isOk, Except.toBool])]
      exact ih (job.leave target world)

/-- If jobs are done one after the other for a target that is empty at first, and each is refused or
succeeds, then the latest text of each package is there afterwards and nothing else. The refused
ones leave no trace, jobs for different packages can change places, and a job can be made again as
long as no other one for its package has come. -/
theorem runs_compose (hstart : IsEmptyTarget target start place)
    (hsettled : AllSettled target jobs start) :
    HoldsJust start.tree (perform target jobs start).tree place (IsLatest target jobs) ∧
    (∀ package, (∃ text, IsLatest target jobs package text) ↔
      ∃ job ∈ jobs, job.package? target = some package) ∧
    (∀ before job later, jobs = before ++ job :: later →
      ((job.output? target).isSome = true ↔
        ∃ path after, Yields (job.run target) (perform target before start) path after)) ∧
    perform target (jobs.filter fun job => (job.request target).isOk) start =
      perform target jobs start ∧
    (∀ before first second later, jobs = before ++ first :: second :: later →
      first.package? target ≠ second.package? target →
      AllSettled target (before ++ second :: first :: later) start ∧
        LeaveAlike target (before ++ second :: first :: later) jobs start) ∧
    ∀ before job between later, jobs = before ++ job :: (between ++ later) →
      (∀ other ∈ between, other.package? target ≠ job.package? target) →
      AllSettled target (before ++ job :: (between ++ job :: later)) start ∧
        LeaveAlike target (before ++ job :: (between ++ job :: later)) jobs start := by
  have hfits := (allSettled_iff hstart).mp hsettled
  refine ⟨(reached_of_fits hstart hfits).holds, fun _ => exists_isLatest_iff,
    fun before job later hjobs => (hsettled before job later hjobs).isSome_output?_iff,
    perform_filter_isOk target jobs start, ?_, ?_⟩
  · rintro before first second later rfl hne
    have hswapped : ∀ job ∈ before ++ second :: first :: later, job.Fits target := by
      intro job hjob
      refine hfits job ?_
      simp only [List.mem_append, List.mem_cons] at hjob ⊢
      tauto
    exact ⟨(allSettled_iff hstart).mpr hswapped,
      leaveAlike_of_fits hstart hfits hswapped fun _ _ => isLatest_swap hne⟩
  · rintro before job between later rfl hbetween
    have hrepeated : ∀ other ∈ before ++ job :: (between ++ job :: later), other.Fits target := by
      intro other hother
      refine hfits other ?_
      simp only [List.mem_append, List.mem_cons] at hother ⊢
      tauto
    exact ⟨(allSettled_iff hstart).mpr hrepeated,
      leaveAlike_of_fits hstart hfits hrepeated fun _ _ => isLatest_repeat hbetween⟩

/-- A job for the package `color`. -/
def colorJob : Job := ⟨false, ["string", "Color", "red", "green", "blue"], {}, []⟩

/-- A job for the package `size`. -/
def sizeJob : Job := ⟨false, ["int:uint8", "Size", "small", "large"], {}, []⟩

/-- What comes after the two: a job that is refused, and one for the package `color` again. -/
def laterJobs : List Job := [
  ⟨false, ["string", "Color"], {}, []⟩,
  ⟨true, ["string", "COLOR", "cyan"], ⟨"gen", false⟩, []⟩]

theorem runs_compose_color :
    IsEmptyTarget ⟨Path.dot⟩ World.fresh World.fresh.here ∧
    AllSettled ⟨Path.dot⟩ (colorJob :: sizeJob :: laterJobs) World.fresh ∧
    HoldsJust World.fresh.tree
      (perform ⟨Path.dot⟩ (colorJob :: sizeJob :: laterJobs) World.fresh).tree World.fresh.here
      (IsLatest ⟨Path.dot⟩ (colorJob :: sizeJob :: laterJobs)) ∧
    LeaveAlike ⟨Path.dot⟩ (sizeJob :: colorJob :: laterJobs) (colorJob :: sizeJob :: laterJobs)
      World.fresh := by
  have hstart : IsEmptyTarget ⟨Path.dot⟩ World.fresh World.fresh.here := by
    refine ⟨by decide, fun names hnames => ?_⟩
    simp [World.fresh, FileTree.find?, List.lookup_cons, List.isEmpty_eq_false_iff.mpr hnames]
  have hfits : ∀ job ∈ colorJob :: sizeJob :: laterJobs, job.Fits ⟨Path.dot⟩ := by
    simp only [laterJobs, List.forall_mem_cons, List.not_mem_nil, false_imp_iff, implies_true,
      and_true]
    exact ⟨Job.fits_of_request rfl (by decide) (by decide) rfl,
      Job.fits_of_request rfl (by decide) (by decide) rfl, Job.fits_of_refused rfl,
      Job.fits_of_request rfl (by decide) (by decide) rfl⟩
  have hsettled := (allSettled_iff hstart).mpr hfits
  have hcolor : colorJob.package? ⟨Path.dot⟩ = some "color" := rfl
  have hsize : sizeJob.package? ⟨Path.dot⟩ = some "size" := rfl
  obtain ⟨hholds, -, -, -, hswap, -⟩ := runs_compose hstart hsettled
  refine ⟨hstart, hsettled, hholds, (hswap [] _ _ _ rfl ?_).2⟩
  rw [hcolor, hsize]
  decide

end GoEnum.Generation

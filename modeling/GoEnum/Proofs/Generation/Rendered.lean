/-
  Which requests have a text, and what a run leaves where there is none.

  The constants of a string enumeration are padded to one width, and padding has a
  greatest width. No check looks at the length of a value, so a request is accepted
  whose constants cannot be padded (`renders_iff_paddable`). As the file is opened
  before its text is produced, a run for such a request breaks off and leaves an
  empty file (`leavesEmpty_longValue`).
-/
import GoEnum.Proofs.Generation.Delivery
import GoEnum.Proofs.Request
import GoEnum.Proofs.Source.StringEnum

namespace GoEnum

open Disk Text

/-- Whether the constants of an enumeration can be padded where they are padded. -/
def Enumeration.IsPaddable (enumeration : Enumeration) : Prop :=
  enumeration.kind = .string →
    ∀ value ∈ enumeration.values, (Naming.constant value).length ≤ maxWidth

/-- A listing has a text just if its constants can be padded. -/
theorem isSome_render?_iff (listing : Listing) :
    listing.render?.isSome = true ↔ listing.enumeration.IsPaddable := by
  obtain ⟨commandLine, ⟨kind, name, values⟩, acceptEmpty⟩ := listing
  cases kind with
  | int backing =>
    have hint : (Enumeration.mk (.int backing) name values).IsPaddable := by
      intro hkind
      simp at hkind
    exact ⟨fun _ => hint, fun _ => rfl⟩
  | string =>
    constructor
    · intro h _
      obtain ⟨text, htext⟩ := Option.isSome_iff_exists.mp h
      obtain ⟨body, hbody, -⟩ := Option.map_eq_some_iff.mp htext
      obtain ⟨sections, hsections, -⟩ := Option.map_eq_some_iff.mp hbody
      exact Source.StringEnum.length_le_of_sections? hsections
    · intro h
      rw [Source.StringEnum.render?_eq_some (h rfl)]
      rfl

theorem render?_eq_none_iff (listing : Listing) :
    listing.render? = none ↔ ¬listing.enumeration.IsPaddable := by
  rw [← Option.not_isSome_iff_eq_none, isSome_render?_iff]

theorem ne_empty_of_render? {listing : Listing} {text : String}
    (h : listing.render? = some text) : text ≠ "" := by
  obtain ⟨body, -, rfl⟩ := Option.map_eq_some_iff.mp h
  unfold endLine
  split
  · rename_i hlast
    rintro rfl
    simp at hlast
  · simp

namespace Generation

variable {world : World} {request : Request}

/-! ### What is left in the output file -/

/-- Makes the output file of a request, as it is done before the text is produced. -/
def createOutput {m : Type → Type} [Monad m] [Host m] (request : Request) : Action m Unit := do
  validateTarget request.target
  openOutput request.outputFile

theorem isAccommodated_of_createOutput {created : World}
    (hname : Lexeme.isIdentifier request.enumeration.name = true)
    (h : Yields (createOutput request) world () created) :
    ∃ place, request.IsAccommodated world.tree world.here place := by
  unfold createOutput at h
  simp only [yields_bind, yields_validateTarget_iff] at h
  obtain ⟨_, _, ⟨⟨place, hplace⟩, rfl⟩, hopen⟩ := h
  exact ⟨place, ((yields_openOutput _ hplace hname).mp hopen).1⟩

/-- A request that is accepted has a text, for every command line and flag, just if its constants
can be padded. If the output file can be created, a run for it leaves the text there, or breaks off
and leaves the file empty. -/
theorem renders_iff_paddable {target : Path} {acceptEmpty : Bool} {positional : List String}
    (haccepted : Request.ofArguments target acceptEmpty positional = .ok request) :
    (∀ commandLine flag,
      (Listing.render? ⟨commandLine, request.enumeration, flag⟩).isSome = true ↔
        request.enumeration.IsPaddable) ∧
    ∀ settings arguments world created, Yields (createOutput request) world () created →
      (request.enumeration.IsPaddable →
        ∃ text after, Yields (generate settings request arguments) world request.outputFile after ∧
          (listingOf settings request arguments).render? = some text ∧ text ≠ "" ∧
          Written after request.outputFile text) ∧
      (¬request.enumeration.IsPaddable →
        ∃ after, Fails (generate settings request arguments) world .fieldTooWide after ∧
          Written after request.outputFile "") := by
  have hname := Request.isIdentifier_of_ofArguments haccepted
  refine ⟨fun commandLine flag => isSome_render?_iff _, ?_⟩
  intro settings arguments world created hcreated
  obtain ⟨place, hplace⟩ := isAccommodated_of_createOutput hname hcreated
  constructor
  · intro hpaddable
    obtain ⟨text, htext⟩ := Option.isSome_iff_exists.mp
      ((isSome_render?_iff (listingOf settings request arguments)).mpr hpaddable)
    obtain ⟨after, hyields, htree, hhere⟩ := yields_generate hplace hname htext
    exact ⟨text, after, hyields, htext, ne_empty_of_render? htext,
      written_of_delivered hplace hname htree hhere⟩
  · intro hpaddable
    have hnone := (render?_eq_none_iff (listingOf settings request arguments)).mpr hpaddable
    obtain ⟨after, hfails, htree, hhere⟩ := fails_generate_of_none hplace hname hnone
    exact ⟨after, hfails, written_of_delivered hplace hname htree hhere⟩

theorem renders_iff_paddable_color : ∃ request created,
    Request.ofArguments ⟨Path.dot⟩ true ["string", "Color", "red", "Blue"] = .ok request ∧
    Yields (createOutput request) World.fresh () created ∧
    request.enumeration.IsPaddable ∧
    (∀ commandLine flag,
      (Listing.render? ⟨commandLine, request.enumeration, flag⟩).isSome = true) ∧
    ∃ text after, Yields (generate {} request []) World.fresh request.outputFile after ∧
      (listingOf {} request []).render? = some text ∧ text ≠ "" ∧
      Written after request.outputFile text := by
  have haccepted : Request.ofArguments ⟨Path.dot⟩ true ["string", "Color", "red", "Blue"] =
      .ok ⟨⟨Path.dot⟩, true, ⟨.string, "Color", ["red", "Blue"]⟩⟩ := by decide
  have hpaddable : (Enumeration.mk .string "Color" ["red", "Blue"]).IsPaddable := by
    intro _
    decide
  obtain ⟨created, hcreated⟩ : ∃ created, Yields (createOutput
      ⟨⟨Path.dot⟩, true, ⟨.string, "Color", ["red", "Blue"]⟩⟩) World.fresh () created := ⟨_, rfl⟩
  obtain ⟨hrenders, hruns⟩ := renders_iff_paddable haccepted
  exact ⟨_, created, haccepted, hcreated, hpaddable,
    fun commandLine flag => (hrenders commandLine flag).mpr hpaddable,
    (hruns {} [] World.fresh created hcreated).1 hpaddable⟩

/-! ### A value that is too long -/

/-- A value of as many letters as are wanted. -/
def letters (n : Nat) : String :=
  String.ofList (List.replicate n 'A')

theorem constant_letters (n : Nat) : Naming.constant (letters n) = letters n := by
  have hcapital : toCapital 'A' = ['A'] := by decide
  cases n with
  | zero => decide
  | succ n =>
    rw [Naming.constant, capitalize, letters, String.toList_ofList, List.replicate_succ,
      capitalizeFirst, hcapital, List.singleton_append]

theorem isIdentifier_letters (n : Nat) : Lexeme.isIdentifier (letters (n + 1)) = true := by
  have hletter : isAlphabetic 'A' = true := by decide
  simp [Lexeme.isIdentifier, letters, List.replicate_succ, Lexeme.isIdentifierChars, isAlphanumeric,
    hletter]

/-- A value of any length can be used. -/
theorem compatible_letters (n : Nat) :
    Naming.Compatible "Color" .string [letters (n + 1)] := by
  have hdeclared : ∀ s ∈ Naming.declaredNames "Color" .string, s.toList.head? ≠ some 'A' := by
    decide
  constructor
  · decide
  · intro value hvalue
    rw [List.mem_singleton.mp hvalue, constant_letters]
    exact isIdentifier_letters n
  · exact List.nodup_singleton _
  · intro value hvalue hmem
    rw [List.mem_singleton.mp hvalue, constant_letters] at hmem
    exact hdeclared _ hmem (by simp [letters, List.replicate_succ])

/-- A request with a value that is one letter too long is accepted and its output file is created,
but it has no text, and the run breaks off with the file empty. -/
theorem leavesEmpty_longValue : ∃ request created after,
    Request.ofArguments ⟨Path.dot⟩ false ["string", "Color", letters 65536] = .ok request ∧
    Yields (createOutput request) World.fresh () created ∧
    (∀ commandLine flag, Listing.render? ⟨commandLine, request.enumeration, flag⟩ = none) ∧
    Fails (generate {} request ["string", "Color", letters 65536]) World.fresh .fieldTooWide
      after ∧
    Written after request.outputFile "" := by
  have haccepted : Request.ofArguments ⟨Path.dot⟩ false ["string", "Color", letters 65536] =
      .ok ⟨⟨Path.dot⟩, false, ⟨.string, "Color", [letters 65536]⟩⟩ :=
    Request.ofArguments_eq_ok_iff.mpr ⟨"string", "Color", .string, [letters 65536], rfl, by simp,
      by decide, compatible_letters 65535, rfl⟩
  have hpaddable : ¬(Enumeration.mk .string "Color" [letters 65536]).IsPaddable := by
    intro h
    have hle := h rfl (letters 65536) (List.mem_singleton_self _)
    rw [constant_letters, letters, String.length_ofList, List.length_replicate] at hle
    exact absurd hle (by decide)
  have hnone : ∀ commandLine flag,
      Listing.render? ⟨commandLine, ⟨.string, "Color", [letters 65536]⟩, flag⟩ = none :=
    fun _ _ => (render?_eq_none_iff _).mpr hpaddable
  obtain ⟨created, hcreated⟩ : ∃ created, Yields (createOutput
      ⟨⟨Path.dot⟩, false, ⟨.string, "Color", [letters 65536]⟩⟩) World.fresh () created := ⟨_, rfl⟩
  have hname := (compatible_letters 65535).isIdentifier_name
  obtain ⟨place, hplace⟩ := isAccommodated_of_createOutput hname hcreated
  obtain ⟨after, hfails, htree, hhere⟩ := fails_generate_of_none hplace hname (hnone _ _)
  exact ⟨_, created, after, haccepted, hcreated, hnone, hfails,
    written_of_delivered hplace hname htree hhere⟩

end Generation

end GoEnum

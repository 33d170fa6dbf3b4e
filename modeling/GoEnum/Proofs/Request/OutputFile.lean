/-
  Where the output file of a request is.

  The name of an accepted enumeration is an identifier, so its package's name has nothing in
  it that means something in a path, whatever small letters make of it. The output file is
  therefore always just two entries below the target (`liesTwoBelow_of_isIdentifier`), and
  requests for one target have the same output file just if they have the same package.
-/
import GoEnum.Proofs.Disk.Component
import GoEnum.Proofs.Naming.EntryNames
import GoEnum.Proofs.Request

namespace GoEnum.Request

open Text GoEnum.Path

variable {target : Path} {acceptEmpty : Bool} {arguments : List String} {request other : Request}

/-- Whether the output file is an entry of an entry of the target, both named after the package. -/
structure LiesTwoBelow (target : Path) (request : Request) : Prop where
  /-- The package has a name, -/
  ne_empty : request.packageName ≠ ""
  /-- which goes through no directory -/
  slash_not_mem : '/' ∉ request.packageName.toList
  /-- and ends no path. -/
  zero_not_mem : '\x00' ∉ request.packageName.toList
  /-- It does not lead back to the target -/
  ne_dot : request.packageName ≠ "."
  /-- or out of it. -/
  ne_dotDot : request.packageName ≠ ".."
  /-- The path is that of the target, extended twice, -/
  outputFile : request.outputFile = (target.join (.ofText request.packageName)).join
    (.ofText (request.packageName ++ ".gen.go"))
  /-- and each time by one component. -/
  components : request.outputFile.components = target.components ++
    [.entry (Utf8.encode request.packageName),
      .entry (Utf8.encode (request.packageName ++ ".gen.go"))]

theorem components_outputFile (h : Lexeme.isIdentifier request.enumeration.name = true) :
    request.outputFile.components = request.target.components ++
      [.entry (Utf8.encode request.packageName),
        .entry (Utf8.encode (request.packageName ++ ".gen.go"))] := by
  have hdirectory : IsEntryName (Utf8.encode request.packageName) :=
    Naming.isEntryName_packageName h
  have hfile : IsEntryName (Utf8.encode (request.packageName ++ ".gen.go")) :=
    Naming.isEntryName_fileName h
  have hpath : request.outputFile = (request.target.join ⟨Utf8.encode request.packageName⟩).join
      ⟨Utf8.encode (request.packageName ++ ".gen.go")⟩ := rfl
  rw [hpath, components_join _ hfile, components_join _ hdirectory, List.append_assoc]
  rfl

theorem liesTwoBelow_of_isIdentifier (h : Lexeme.isIdentifier request.enumeration.name = true) :
    LiesTwoBelow request.target request where
  ne_empty := Naming.packageName_ne_empty h
  slash_not_mem := Naming.slash_not_mem_packageName h
  zero_not_mem := Naming.zero_not_mem_packageName h
  ne_dot := fun heq => (Naming.isEntryName_packageName h).ne_dot (congrArg Utf8.encode heq)
  ne_dotDot := fun heq => (Naming.isEntryName_packageName h).ne_dotDot (congrArg Utf8.encode heq)
  outputFile := rfl
  components := components_outputFile h

/-- Requests for one target have the same output file if their packages have one name. -/
theorem outputFile_eq_of_packageName_eq (htarget : request.target = other.target)
    (h : request.packageName = other.packageName) : request.outputFile = other.outputFile := by
  have hfile : Naming.fileName request.enumeration.name = Naming.fileName other.enumeration.name :=
    congrArg (· ++ ".gen.go") h
  rw [outputFile, outputFile, outputDirectory, outputDirectory, htarget, h, hfile]

/-- The component before the last one tells the package. -/
theorem packageName_eq_of_components_eq (htarget : request.target = other.target)
    (hrequest : Lexeme.isIdentifier request.enumeration.name = true)
    (hother : Lexeme.isIdentifier other.enumeration.name = true)
    (h : request.outputFile.components = other.outputFile.components) :
    request.packageName = other.packageName := by
  rw [components_outputFile hrequest, components_outputFile hother, htarget,
    List.append_cancel_left_eq, List.cons.injEq, Component.entry.injEq] at h
  exact Utf8.encode_injective h.1

/-- The output file of an accepted request is two entries below the target, and that of another
one for the same target is the same, as a path and by its components, just if both have the same
package. -/
theorem outputFile_liesTwoBelow (h : ofArguments target acceptEmpty arguments = .ok request) :
    LiesTwoBelow target request ∧
      ∀ flag words other, ofArguments target flag words = .ok other →
        (request.outputFile = other.outputFile ↔ request.packageName = other.packageName) ∧
        (request.outputFile.components = other.outputFile.components ↔
          request.packageName = other.packageName) := by
  have hname := isIdentifier_of_ofArguments h
  have htarget := target_of_ofArguments h
  refine ⟨htarget ▸ liesTwoBelow_of_isIdentifier hname, fun flag words other hother => ?_⟩
  have hsame : request.target = other.target := htarget.trans (target_of_ofArguments hother).symm
  have hpackage := packageName_eq_of_components_eq hsame hname (isIdentifier_of_ofArguments hother)
  have hfile : request.packageName = other.packageName → request.outputFile = other.outputFile :=
    outputFile_eq_of_packageName_eq hsame
  exact ⟨⟨fun heq => hpackage (congrArg Path.components heq), hfile⟩,
    ⟨hpackage, fun heq => congrArg Path.components (hfile heq)⟩⟩

/-- Two names that differ in their sigmas, of which the last one is final in small letters. -/
theorem outputFile_liesTwoBelow_sigma :
    let request : Request := ⟨.ofText "out/.", false, ⟨.string, "ΟΔΟΣ", ["A"]⟩⟩
    let other : Request := ⟨.ofText "out/.", true, ⟨.int none, "Οδος", ["B"]⟩⟩
    ofArguments (.ofText "out/.") false ["string", "ΟΔΟΣ", "A"] = .ok request ∧
    ofArguments (.ofText "out/.") true ["int", "Οδος", "B"] = .ok other ∧
    LiesTwoBelow (.ofText "out/.") request ∧ request.outputFile = other.outputFile := by
  have hrequest : ofArguments (.ofText "out/.") false ["string", "ΟΔΟΣ", "A"] =
      .ok ⟨.ofText "out/.", false, ⟨.string, "ΟΔΟΣ", ["A"]⟩⟩ := by decide +kernel
  have hother : ofArguments (.ofText "out/.") true ["int", "Οδος", "B"] =
      .ok ⟨.ofText "out/.", true, ⟨.int none, "Οδος", ["B"]⟩⟩ := by decide +kernel
  obtain ⟨hlies, hsame⟩ := outputFile_liesTwoBelow hrequest
  exact ⟨hrequest, hother, hlies, (hsame _ _ _ hother).1.mpr (by decide +kernel)⟩

end GoEnum.Request

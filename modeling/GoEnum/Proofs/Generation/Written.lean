/-
  What a generating run leaves in the output file.

  A run that puts a produced text into a file leaves just that text there
  (`written_of_yields`): the last thing it does is to store the bytes. A run of
  `generate` that gives a path has produced the text of its listing, and gives the
  path of that file (`generate_written`).
-/
import GoEnum.Generation.Run
import GoEnum.Proofs.Disk.FileTree
import GoEnum.Proofs.Disk.World

namespace GoEnum.Generation

open Disk

variable {world after : World} {path : Path}

/-- Whether a world has a file at a path whose bytes spell a text. -/
def Written (world : World) (path : Path) (text : String) : Prop :=
  world.tree.read world.here path = .ok (Text.Utf8.encode text)

theorem written_of_write {bytes : List UInt8} {result : Unit}
    (h : world.outcome (Host.write path bytes) = (.ok result, after)) :
    after.tree.read after.here path = .ok bytes := by
  obtain ⟨tree, hstore, rfl⟩ := World.outcome_change_eq_ok.mp h
  exact FileTree.read_store hstore

/-- The text that was produced is what the file holds afterwards. -/
theorem written_of_yields {produce : Action (StateM World) String} {result : Unit}
    (h : Yields (writeGenerated path produce) world result after) :
    ∃ text before between, Yields produce before text between ∧ Written after path text := by
  unfold writeGenerated at h
  simp only [yields_bind, yields_attempt, yields_note] at h
  obtain ⟨_, _, _, _, before, _, text, between, hproduce, _, _, _, hwrite⟩ := h
  exact ⟨text, before, between, hproduce, written_of_write hwrite⟩

theorem render?_of_yields {listing : Listing} {text : String}
    (h : Yields (renderListing listing) world text after) : listing.render? = some text := by
  unfold renderListing at h
  simp only [yields_bind, yields_note] at h
  obtain ⟨_, _, _, h⟩ := h
  cases hrender : listing.render? with
  | none => simp [hrender] at h
  | some rendered =>
    rw [hrender, yields_pure] at h
    rw [h.1]

/-- A generating run that succeeds gives the output file of the request, and the file holds the
text of the listing. -/
theorem generate_written {settings : Settings} {request : Request} {arguments : List String}
    (h : Yields (generate settings request arguments) world path after) :
    path = request.outputFile ∧
      ∃ text, (listingOf settings request arguments).render? = some text ∧
        Written after path text := by
  unfold generate at h
  simp only [yields_bind, yields_note, yields_pure] at h
  obtain ⟨_, _, _, _, _, _, _, _, hwrite, _, _, hnote, rfl, rfl⟩ := h
  obtain ⟨text, _, _, hproduce, hwritten⟩ := written_of_yields hwrite
  subst hnote
  exact ⟨rfl, text, render?_of_yields hproduce, hwritten⟩

end GoEnum.Generation

import SiteIndex.Output.FileWriter
import SiteIndex.Proofs.FileSystem.Tree
import SiteIndex.Proofs.Template.Answers

/-!
Expansions that write to a file of the file system that they read. On its own such an expansion changes
that file, the cursor of its directory, and marks. Two of them side by side do the same if the file
systems differ only in hidden files that no widget looks into.
-/

namespace SiteIndex.Template

open SiteIndex.Listing SiteIndex.FileSystem

/-- Whatever widgets do to the arena, they mark, and move the cursor of their directory. -/
theorem still_moves {context : Context} {id : Nat} (directory : context.directory = some id)
    {arena arena' : Arena} (moves : Moves id arena arena') :
    arena'.still context.directory = arena.still context.directory := by
  rw [directory]
  cases moves with
  | advance => exact arena.still_advance id
  | markWay => exact Arena.still_of_unmarked (arena.unmarked_markWay id) _
  | nextSegment => exact Arena.still_of_unmarked (arena.unmarked_nextSegment id) _

/-- What is left of a scene by an expansion into the file at `location`. -/
structure Scene.Leaves (context : Context) (location : Location) (before later : Scene FileWriter) :
    Prop where
  stays : later.out.out.file.location = location
  rewritten : ∃ content, Rewritten location content before.out.files later.out.files
  still : later.arena.still context.directory = before.arena.still context.directory

theorem kept_leaves (context : Context) (location : Location) (before : Scene FileWriter) :
    Kept FileWriter.sink context (Scene.Leaves context location before) (fun _ => False) where
  write := by
    intro scene bytes leaves
    obtain ⟨content, rewritten⟩ := leaves.rewritten
    unfold Action.writeBytes
    by_cases none : bytes.isEmpty = true
    · rw [if_pos none]
      exact leaves
    · rw [if_neg none]
      obtain ⟨out, content', place, written⟩ :=
        BufferedFile.write_file scene.out.out bytes content
      rw [leaves.stays] at place written
      obtain ⟨files, passed, changed⟩ := written scene.out.files rewritten.holds
      simp only [FileWriter.sink, FileWriter.write, passed]
      exact ⟨place, ⟨content', rewritten.trans changed⟩, leaves.still⟩
  moves := by
    intro scene arena id directory leaves moves
    exact ⟨leaves.stays, leaves.rewritten,
      (still_moves directory moves).trans leaves.still⟩
  rootSteps _ leaves := ⟨leaves.stays, leaves.rewritten, leaves.still⟩

theorem expand_leaves {context : Context} {fuel : Nat} {suppressed : Bool}
    {template after : Template} {scene later : Scene FileWriter} {result : Except FileError Ending}
    {content : ByteArray}
    (holds : scene.out.files.node? scene.out.out.file.location = some (.file content))
    (ended : template.expand (sceneHost FileWriter.sink context) fuel suppressed scene =
      some (result, after, later)) :
    (∃ ending, result = .ok ending) ∧
      Scene.Leaves context scene.out.out.file.location scene later := by
  have kept := (kept_leaves context scene.out.out.file.location scene).expand
    ⟨rfl, ⟨content, .refl _ _, holds⟩, rfl⟩ ended
  cases result with
  | ok ending => exact ⟨⟨ending, rfl⟩, kept⟩
  | error _ => exact kept.elim

end SiteIndex.Template

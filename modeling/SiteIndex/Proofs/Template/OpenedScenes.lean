import SiteIndex.Proofs.FileSystem.Opened
import SiteIndex.Proofs.Template.FileScenes

/-!
Expansions into whatever a path leads to. Whether that is a file or a device, nothing is changed but what
stands there, and a device is not changed either.
-/

namespace SiteIndex

open SiteIndex.FileSystem

namespace BufferedFile

variable {files : FileSystem} {out : BufferedFile}

/-- A device takes nothing: all that can be written to it is what waits. -/
theorem flush_device (device : files.node? out.file.location = some .fullDevice) :
    (out.flush files).2.1 = files ∧ (out.flush files).2.2.file = out.file := by
  unfold flush FileSystem.write
  by_cases none : out.waiting.isEmpty = true
  · simp only [if_pos none, ofFile, and_self]
  · simp only [if_neg none, device, and_self]

theorem take_device (device : files.node? out.file.location = some .fullDevice) (bytes : ByteArray) :
    (out.take bytes files).2.1 = files ∧ (out.take bytes files).2.2.file = out.file := by
  unfold take FileSystem.write
  by_cases large : capacity ≤ bytes.size
  · by_cases none : bytes.isEmpty = true
    · simp only [if_pos large, if_pos none, and_self]
    · simp only [if_pos large, if_neg none, device, and_self]
  · simp only [if_neg large, and_self]

theorem write_device (device : files.node? out.file.location = some .fullDevice) (bytes : ByteArray) :
    (out.write bytes files).2.1 = files ∧ (out.write bytes files).2.2.file = out.file := by
  unfold write
  by_cases room : out.waiting.size + bytes.size ≤ capacity
  · simp only [if_pos room]
    exact take_device device bytes
  · obtain ⟨same, stays⟩ := flush_device device
    rw [if_neg room]
    rcases flushed : out.flush files with ⟨failure | _, files', out'⟩
    · rw [flushed] at same stays
      exact ⟨same, stays⟩
    · rw [flushed] at same stays
      dsimp only at same stays ⊢
      subst same
      rw [← stays] at device ⊢
      exact take_device device bytes

/-- Flushing changes nothing but what is written to. -/
theorem flush_alike {node : Node} (stands : files.node? out.file.location = some node)
    (writable : node.Writable) : Alike (· = out.file.location) files (out.flush files).2.1 := by
  cases writable with
  | file content =>
      obtain ⟨out', content', _, flushed⟩ := out.flush_file content
      obtain ⟨files', passed, rewritten⟩ := flushed files stands
      rw [passed]
      exact rewritten.alike
  | device =>
      rw [(flush_device stands).1]
      exact .refl _ files

end BufferedFile

namespace Template

open SiteIndex.Listing

/-- What is left of a scene by an expansion into what stands at `location`. -/
structure Scene.Spares (context : Context) (location : Location) (before later : Scene FileWriter) :
    Prop where
  stays : later.out.out.file.location = location
  alike : Alike (· = location) before.out.files later.out.files
  still : later.arena.still context.directory = before.arena.still context.directory

theorem Scene.Leaves.spares {context : Context} {location : Location} {before later : Scene FileWriter}
    (leaves : Scene.Leaves context location before later) :
    Scene.Spares context location before later := by
  obtain ⟨content, rewritten⟩ := leaves.rewritten
  exact ⟨leaves.stays, rewritten.alike, leaves.still⟩

/-- Whether or not writing to a device fails, it changes nothing. -/
structure Scene.Bare (context : Context) (before later : Scene FileWriter) : Prop where
  files : later.out.files = before.out.files
  file : later.out.out.file = before.out.out.file
  still : later.arena.still context.directory = before.arena.still context.directory

theorem kept_bare (context : Context) {before : Scene FileWriter}
    (device : before.out.files.node? before.out.out.file.location = some .fullDevice) :
    Kept FileWriter.sink context (Scene.Bare context before) (Scene.Bare context before) where
  write := by
    intro scene bytes bare
    rw [← bare.files, ← bare.file] at device
    obtain ⟨files, file⟩ := BufferedFile.write_device device bytes
    unfold Action.writeBytes
    by_cases none : bytes.isEmpty = true
    · rw [if_pos none]
      exact bare
    · rw [if_neg none]
      simp only [FileWriter.sink, FileWriter.write]
      rcases written : scene.out.out.write bytes scene.out.files with ⟨failure | _, files', out'⟩
      all_goals
        rw [written] at files file
        exact ⟨files.trans bare.files, file.trans bare.file, bare.still⟩
  moves _ directory bare moves :=
    ⟨bare.files, bare.file, (still_moves directory moves).trans bare.still⟩
  rootSteps _ bare := ⟨bare.files, bare.file, bare.still⟩

section
variable {context : Context} {fuel : Nat} {suppressed : Bool} {template after : Template}
  {scene later : Scene FileWriter} {result : Except FileError Ending}

theorem expand_bare
    (device : scene.out.files.node? scene.out.out.file.location = some .fullDevice)
    (ended : template.expand (sceneHost FileWriter.sink context) fuel suppressed scene =
      some (result, after, later)) : Scene.Bare context scene later := by
  have kept := (kept_bare context device).expand ⟨rfl, rfl, rfl⟩ ended
  cases result <;> exact kept

section
variable {node : Node} (stands : scene.out.files.node? scene.out.out.file.location = some node)
  (writable : node.Writable)
include stands writable

theorem expand_spares
    (ended : template.expand (sceneHost FileWriter.sink context) fuel suppressed scene =
      some (result, after, later)) :
    Scene.Spares context scene.out.out.file.location scene later := by
  cases writable with
  | file content => exact (expand_leaves stands ended).2.spares
  | device =>
      have bare := expand_bare stands ended
      refine ⟨congrArg OpenFile.location bare.file, ?_, bare.still⟩
      rw [bare.files]
      exact .refl _ _

end

end

end Template
end SiteIndex

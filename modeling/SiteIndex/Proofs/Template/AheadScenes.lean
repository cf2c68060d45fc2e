import SiteIndex.Proofs.FileSystem.Ahead
import SiteIndex.Proofs.Template.TwinScenes

/-!
Two expansions into one file, where the second reads files that are ahead of those that the first reads.
No widget looks where the files differ: what it looks for has another name than what is veiled, and what
is announced is required not to be veiled. So both come to the same, and the files stay ahead.
-/

namespace SiteIndex.Template

open SiteIndex.Listing SiteIndex.FileSystem

/-- What an expansion may look at is in the tree and not hidden, and where a directory is listed there is
one. -/
structure Housed (root : Location) (hidden : Location → Prop) (context : Context) (arena : Arena)
    (files : FileSystem) : Prop extends Lodged root hidden context arena files where
  leads : ∀ snapshot, context.directory.bind arena.get? = some snapshot →
    ∀ entry ∈ snapshot.entries, entry.isDirectory = true →
      ∃ location, files.find (Path.join snapshot.path entry.name) = .ok (location, .directory)

section
variable {root : Location} {veil : Location → Prop} {final : FileSystem} {context : Context}
  {files files' : FileSystem}

theorem Housed.congr {arena arena' : Arena} (housed : Housed root veil context arena files)
    (same : files.outline = files'.outline)
    (still : arena'.still context.directory = arena.still context.directory) :
    Housed root veil context arena' files' where
  toLodged := housed.toLodged.congr same still
  leads := by
    intro snapshot seen entry listed kind
    have alike : Alike (fun _ => True) files files' := ⟨same, fun _ shown => absurd trivial shown⟩
    obtain ⟨snapshot', before, path, entries⟩ := Arena.seen_alike still seen
    obtain ⟨location, found⟩ := housed.leads snapshot' before entry (entries ▸ listed) kind
    exact ⟨location, path ▸ find_extends alike.extends found⟩

/-- Under a name that is not veiled the same is found. -/
theorem Housed.found_entry {arena : Arena} (housed : Housed root veil context arena files)
    (ahead : Ahead root veil final files files') {base : String} {directory : Location}
    (found : files.find base = .ok (directory, .directory)) (below : root <+: directory)
    {name : String} (named : IsEntryName name) (shown : ¬ veil (directory ++ [name])) :
    files.find (Path.join base name) = files'.find (Path.join base name) ∧
      ∀ location node, files.find (Path.join base name) = .ok (location, node) → ¬ veil location := by
  refine ⟨housed.tree.find_entry_congr (ahead.reworked.tree housed.tree) found
    (find_extends ahead.reworked.extended found) below below named (ahead.shown shown).symm,
    fun _ _ entry => ?_⟩
  rw [(housed.tree.find_entry found below named entry).1]
  exact shown

/-- What a widget may look at is found where it is ahead as well, and is not veiled. -/
theorem Housed.found {arena : Arena} (housed : Housed root veil context arena files)
    (ahead : Ahead root veil final files files') {path : String}
    (consults : context.Consults arena path) :
    files.find path = files'.find path ∧
      ∀ location node, files.find path = .ok (location, node) → ¬ veil location := by
  cases housed.looksInto consults with
  | entry found below named shown => exact housed.found_entry ahead found below named shown
  | @inner snapshot _ listing seen found below listed named kind =>
      obtain ⟨inner, found'⟩ := housed.leads snapshot seen listing listed kind
      have inside := (housed.tree.find_entry found below named found').1
      exact housed.found_entry ahead found' (inside ▸ List.prefix_append_of_prefix below)
        isEntryName_summary (housed.hides.shown inner last_summary (by decide))
  | announced announced =>
      obtain ⟨base, directory, name, rfl, found, below, named, shown, here, parent⟩ := announced
      rcases isEntryName_or_dots named with entryName | dots
      · exact housed.found_entry ahead found below entryName shown
      · obtain ⟨alike, there⟩ :=
          find_dots_congr found (find_extends ahead.reworked.extended found) dots
        refine ⟨alike, fun location node leads => ?_⟩
        rcases there _ leads with rfl | rfl <;> assumption

end

/-- Scenes that differ in the files only, where the second has those that are ahead. -/
structure Scene.Beside (root : Location) (veil : Location → Prop) (final : FileSystem)
    (context : Context) (scene scene' : Scene FileWriter) : Prop where
  housed : Housed root veil context scene.arena scene.out.files
  arena : scene'.arena = scene.arena
  rootSteps : scene'.rootSteps = scene.rootSteps
  out : scene'.out.out = scene.out.out
  files : Ahead root veil final scene.out.files scene'.out.files
  same : scene'.out.files.node? scene.out.out.file.location =
    scene.out.files.node? scene.out.out.file.location
  holds : ∃ content, scene.out.files.node? scene.out.out.file.location = some (.file content)

section
variable {root : Location} {veil : Location → Prop} {final : FileSystem} {context : Context}
  {scene scene' : Scene FileWriter}

namespace Scene.Beside

theorem moved (beside : Beside root veil final context scene scene') {id : Nat}
    (directory : context.directory = some id) {arena : Arena} (moves : Moves id scene.arena arena) :
    Beside root veil final context { scene with arena := arena }
      { scene' with arena := arena } where
  housed := beside.housed.congr rfl (still_moves directory moves)
  arena := rfl
  rootSteps := beside.rootSteps
  out := beside.out
  files := beside.files
  same := beside.same
  holds := beside.holds

theorem write (beside : Beside root veil final context scene scene') (bytes : ByteArray) :
    Paired (Same (Beside root veil final context)) (fun _ _ => False)
      (Action.writeBytes FileWriter.sink bytes scene)
      (Action.writeBytes FileWriter.sink bytes scene') := by
  obtain ⟨content, holds⟩ := beside.holds
  unfold Action.writeBytes
  by_cases none : bytes.isEmpty = true
  · rw [if_pos none, if_pos none]
    exact .ok ⟨rfl, beside⟩
  · obtain ⟨out, content', place, written⟩ := BufferedFile.write_file scene.out.out bytes content
    obtain ⟨files, passed, changed⟩ := written scene.out.files holds
    obtain ⟨files', passed', changed'⟩ := written scene'.out.files (beside.same.trans holds)
    rw [← beside.out] at passed'
    simp only [if_neg none, FileWriter.sink, FileWriter.write, passed, passed']
    refine .ok ⟨rfl, beside.housed.congr changed.alike.outline rfl, beside.arena,
      beside.rootSteps, rfl, beside.files.rewritten changed changed', ?_, content', ?_⟩
    · rw [place]
      exact changed'.holds.trans changed.holds.symm
    · rw [place]
      exact changed.holds

end Scene.Beside

/-- Nothing that a widget does tells two such scenes apart. -/
theorem twinned_ahead (root : Location) (veil : Location → Prop) (final : FileSystem)
    (context : Context) :
    Twinned FileWriter.sink context (fun location => ¬ veil location)
      (fun _ => Scene.Beside root veil final context) (fun _ _ => False) where
  forget := id
  write bytes beside := beside.write bytes
  snapshot := by
    intro _ scene scene' beside
    rw [beside.arena]
  levels := by
    intro _ scene scene' beside
    rw [beside.arena]
  found := by
    intro _ scene scene' path beside consults
    exact beside.housed.found beside.files consults
  content := by
    intro _ scene scene' location beside shown
    simp only [FileWriter.sink, content, beside.files.shown shown]
  advance := by
    intro _ scene scene' id directory beside
    rw [beside.arena]
    exact beside.moved directory .advance
  markWay := by
    intro _ scene scene' id directory beside
    rw [beside.arena]
    exact beside.moved directory .markWay
  nextSegment := by
    intro scene scene' id directory beside
    rw [beside.arena]
    exact ⟨rfl, beside.moved directory .nextSegment⟩
  rootSteps := by
    intro _ scene scene' beside
    exact ⟨beside.rootSteps.symm, fun steps => { beside with rootSteps := rfl }⟩

/-- Where an expansion succeeds, so does the same expansion where the files are ahead. -/
theorem expand_ahead {fuel : Nat} {suppressed : Bool} {template after : Template}
    {later : Scene FileWriter} {result : Except FileError Ending}
    (beside : Scene.Beside root veil final context scene scene')
    (ended : template.expand (sceneHost FileWriter.sink context) fuel suppressed scene =
      some (result, after, later)) :
    ∃ later', template.expand (sceneHost FileWriter.sink context) fuel suppressed scene' =
        some (result, after, later') ∧ Scene.Beside root veil final context later later' := by
  obtain ⟨later', ended', paired⟩ :=
    expand_paired (twinned_ahead root veil final context).alongside beside ended
  refine ⟨later', ended', ?_⟩
  cases paired with
  | ok same => exact same.2
  | error _ broken => exact broken.elim

end
end SiteIndex.Template

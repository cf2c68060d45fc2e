import SiteIndex.FileSystem.Buffered
import SiteIndex.Proofs.FileSystem.Outline

/-!
File systems that are alike but for what some files have in them. What is written to a file changes that
file only, and what comes of it depends on that file only.
-/

namespace SiteIndex

namespace FileSystem

/-- The same directories, files and links, and the same in all files but those at `hidden` locations. -/
structure Alike (hidden : Location → Prop) (files files' : FileSystem) : Prop where
  outline : files.outline = files'.outline
  shown : ∀ location, ¬ hidden location → files.node? location = files'.node? location

namespace Alike

variable {hidden hidden' : Location → Prop} {files files' files'' : FileSystem}

theorem refl (hidden : Location → Prop) (files : FileSystem) : Alike hidden files files :=
  ⟨rfl, fun _ _ => rfl⟩

theorem symm (alike : Alike hidden files files') : Alike hidden files' files :=
  ⟨alike.outline.symm, fun location shown => (alike.shown location shown).symm⟩

theorem trans (first : Alike hidden files files') (second : Alike hidden' files' files'') :
    Alike (fun location => hidden location ∨ hidden' location) files files'' :=
  ⟨first.outline.trans second.outline, fun location shown =>
    (first.shown location fun here => shown (.inl here)).trans
      (second.shown location fun here => shown (.inr here))⟩

theorem mono (alike : Alike hidden files files')
    (more : ∀ location, hidden location → hidden' location) : Alike hidden' files files' :=
  ⟨alike.outline, fun location shown =>
    alike.shown location fun here => shown (more location here)⟩

theorem node?_outline (alike : Alike hidden files files') (location : Location) :
    (files.node? location).map Node.outline = (files'.node? location).map Node.outline := by
  rw [← FileSystem.node?_outline, ← FileSystem.node?_outline, alike.outline]

theorem resolve (alike : Alike hidden files files') (purpose : Purpose) (path : String) :
    (files.resolve purpose path).map Target.outline =
      (files'.resolve purpose path).map Target.outline := by
  rw [← resolve_outline, ← resolve_outline, alike.outline]

theorem childNames (alike : Alike hidden files files') (location : Location) :
    files.childNames location = files'.childNames location := by
  rw [← childNames_outline, alike.outline, childNames_outline]

theorem isDirectory (alike : Alike hidden files files') {location : Location}
    (directory : files.node? location = some .directory) :
    files'.node? location = some .directory := by
  have same := alike.node?_outline location
  rw [directory] at same
  cases found : files'.node? location with
  | none => simp [found] at same
  | some node =>
      rw [found, Option.map_some, Option.map_some, Option.some.injEq] at same
      rw [(isDirectory_outline node).mp same.symm]

theorem isFile (alike : Alike hidden files files') {location : Location} {content : ByteArray}
    (file : files.node? location = some (.file content)) :
    ∃ content', files'.node? location = some (.file content') := by
  have same := alike.node?_outline location
  rw [file] at same
  cases found : files'.node? location with
  | none => simp [found] at same
  | some node => cases node <;> simp [found, Node.outline] at same ⊢

end Alike

theorem outline_put (files : FileSystem) (location : Location) (node : Node) :
    (files.put location node).outline = files.outline.put location node.outline := by
  simp only [put, outline]
  congr 1
  induction files.nodes with
  | nil => rfl
  | cons head rest ih =>
      obtain ⟨other, old⟩ := head
      simp only [putNode, List.map_cons]
      split
      · rfl
      · rw [List.map_cons, ih]

theorem Alike.put {hidden : Location → Prop} {files files' : FileSystem}
    (alike : Alike hidden files files') {location : Location} (inside : location ≠ [])
    (content : ByteArray) :
    Alike hidden (files.put location (.file content)) (files'.put location (.file content)) where
  outline := by rw [outline_put, outline_put, alike.outline]
  shown other shown := by
    rw [node?_put _ _ _ _ inside, node?_put _ _ _ _ inside, alike.shown other shown]

theorem putNode_self {location : Location} {node : Node} {nodes : List (Location × Node)}
    (found : nodes.lookup location = some node) : putNode location node nodes = nodes := by
  induction nodes with
  | nil => simp at found
  | cons head rest ih =>
      obtain ⟨other, old⟩ := head
      rw [List.lookup_cons] at found
      by_cases here : location = other
      · simp only [here, beq_self_eq_true, Option.some.injEq] at found
        simp only [putNode, if_pos here, found]
      · simp only [beq_eq_false_iff_ne.mpr here] at found
        simp only [putNode, if_neg here, ih found]

theorem ne_nil_of_file {files : FileSystem} {location : Location} {content : ByteArray}
    (file : files.node? location = some (.file content)) : location ≠ [] := by
  rintro rfl
  simp [node?] at file

theorem put_outline_of_file {files : FileSystem} {location : Location} {old : ByteArray}
    (file : files.node? location = some (.file old)) (content : ByteArray) :
    (files.put location (.file content)).outline = files.outline := by
  have emptied : files.outline.node? location = some (.file .empty) := by
    rw [node?_outline, file]
    rfl
  rw [outline_put]
  simp only [node?, if_neg (ne_nil_of_file file)] at emptied
  simp only [put, Node.outline, putNode_self emptied]

/-- The file at `location`, and nothing else, has been changed, and now has `content` in it. -/
structure Rewritten (location : Location) (content : ByteArray) (files files' : FileSystem) : Prop
    where
  alike : Alike (· = location) files files'
  holds : files'.node? location = some (.file content)

theorem Rewritten.trans {location : Location} {first second : ByteArray}
    {files files' files'' : FileSystem} (early : Rewritten location first files files')
    (late : Rewritten location second files' files'') : Rewritten location second files files'' :=
  ⟨(early.alike.trans late.alike).mono fun _ => or_self_iff.mp, late.holds⟩

/-- File systems that are alike stay so when the same comes to be in one file of each. -/
theorem Rewritten.both {hidden : Location → Prop} {location : Location} {content : ByteArray}
    {files files' later later' : FileSystem} (first : Rewritten location content files later)
    (alike : Alike hidden files files') (second : Rewritten location content files' later') :
    Alike hidden later later' where
  outline := first.alike.outline.symm.trans (alike.outline.trans second.alike.outline)
  shown other shown := by
    by_cases here : other = location
    · rw [here, first.holds, second.holds]
    · rw [← first.alike.shown other here, ← second.alike.shown other here, alike.shown other shown]

theorem rewritten_put {files : FileSystem} {location : Location} {old : ByteArray}
    (file : files.node? location = some (.file old)) (content : ByteArray) :
    Rewritten location content files (files.put location (.file content)) := by
  have inside := ne_nil_of_file file
  refine ⟨⟨(put_outline_of_file file content).symm, fun other shown => ?_⟩, ?_⟩
  · rw [node?_put _ _ _ _ inside, if_neg shown]
  · rw [node?_put _ _ _ _ inside, if_pos rfl]

/-- What comes of writing to an open file depends on what is in the file, and on nothing around it. -/
theorem write_file (file : OpenFile) (bytes content : ByteArray) :
    ∃ file' content', file'.location = file.location ∧
      ∀ files : FileSystem, files.node? file.location = some (.file content) →
        ∃ files', files.write file bytes = .ok (files', file') ∧
          Rewritten file.location content' files files' := by
  by_cases none : bytes.isEmpty = true
  · refine ⟨file, content, rfl, fun files holds => ⟨files, ?_, .refl _ files, holds⟩⟩
    simp only [write, if_pos none]
  · refine ⟨⟨file.location, file.offset + bytes.size⟩, overwrite content file.offset bytes, rfl,
      fun files holds => ⟨_, ?_, rewritten_put holds _⟩⟩
    simp only [write, if_neg none, holds]

end FileSystem

namespace BufferedFile

open FileSystem

theorem flush_file (out : BufferedFile) (content : ByteArray) :
    ∃ out' content', out'.file.location = out.file.location ∧
      ∀ files : FileSystem, files.node? out.file.location = some (.file content) →
        ∃ files', out.flush files = (.ok (), files', out') ∧
          Rewritten out.file.location content' files files' := by
  obtain ⟨file', content', same, written⟩ := write_file out.file out.waiting content
  refine ⟨ofFile file', content', same, fun files holds => ?_⟩
  obtain ⟨files', passed, rewritten⟩ := written files holds
  exact ⟨files', by simp only [flush, passed], rewritten⟩

theorem take_file (out : BufferedFile) (bytes content : ByteArray) :
    ∃ out' content', out'.file.location = out.file.location ∧
      ∀ files : FileSystem, files.node? out.file.location = some (.file content) →
        ∃ files', out.take bytes files = (.ok (), files', out') ∧
          Rewritten out.file.location content' files files' := by
  by_cases large : capacity ≤ bytes.size
  · obtain ⟨file', content', same, written⟩ := write_file out.file bytes content
    refine ⟨{ out with file := file' }, content', same, fun files holds => ?_⟩
    obtain ⟨files', passed, rewritten⟩ := written files holds
    exact ⟨files', by simp only [take, if_pos large, passed], rewritten⟩
  · refine ⟨{ out with waiting := out.waiting ++ bytes }, content, rfl, fun files holds => ?_⟩
    exact ⟨files, by simp only [take, if_neg large], .refl _ files, holds⟩

theorem write_file (out : BufferedFile) (bytes content : ByteArray) :
    ∃ out' content', out'.file.location = out.file.location ∧
      ∀ files : FileSystem, files.node? out.file.location = some (.file content) →
        ∃ files', out.write bytes files = (.ok (), files', out') ∧
          Rewritten out.file.location content' files files' := by
  by_cases room : out.waiting.size + bytes.size ≤ capacity
  · obtain ⟨out', content', same, taken⟩ := out.take_file bytes content
    refine ⟨out', content', same, fun files holds => ?_⟩
    obtain ⟨files', passed, rewritten⟩ := taken files holds
    exact ⟨files', by simp only [write, if_pos room, passed], rewritten⟩
  · obtain ⟨emptied, between, place, flushed⟩ := out.flush_file content
    obtain ⟨out', content', same, taken⟩ := emptied.take_file bytes between
    refine ⟨out', content', same.trans place, fun files holds => ?_⟩
    obtain ⟨files', passed, early⟩ := flushed files holds
    obtain ⟨files'', passed', late⟩ := taken files' (by rw [place]; exact early.holds)
    rw [place] at late
    exact ⟨files'', by simp only [write, if_neg room, passed, passed'], early.trans late⟩

end BufferedFile
end SiteIndex

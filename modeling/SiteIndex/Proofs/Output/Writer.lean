import SiteIndex.Output.FileWriter
import SiteIndex.Proofs.FileSystem.Alike

/-!
What has been written through a writer that started on an empty file: what stands in the file, and
behind it what still waits. Whatever is written comes behind that, and flushing brings all of it into
the file.
-/

namespace SiteIndex

open SiteIndex.FileSystem

theorem FileSystem.overwrite_end (content bytes : ByteArray) :
    overwrite content content.size bytes = content ++ bytes := by
  have gap : (⟨Array.replicate (content.size - content.size) 0⟩ : ByteArray) = .empty := by
    rw [Nat.sub_self]
    rfl
  have behind : content.extract (content.size + bytes.size) content.size = .empty := by
    apply ByteArray.ext
    simp
  simp only [overwrite, gap, behind, ByteArray.append_empty, ByteArray.extract_zero_size]

/-- These bytes have been written: some stand in the file, up to its end, and the others wait. -/
def FileWriter.Written (writer : FileWriter) (bytes : ByteArray) : Prop :=
  ∃ content, writer.files.node? writer.out.file.location = some (.file content) ∧
    writer.out.file.offset = content.size ∧ bytes = content ++ writer.out.waiting

section
variable {files : FileSystem} {out : BufferedFile} {content bytes : ByteArray}

/-- A file that is written to at its end. -/
theorem FileSystem.write_end {file : OpenFile} (bytes : ByteArray)
    (holds : files.node? file.location = some (.file content)) (atEnd : file.offset = content.size) :
    ∃ files' file', files.write file bytes = .ok (files', file') ∧
      file'.location = file.location ∧ file'.offset = (content ++ bytes).size ∧
      files'.node? file.location = some (.file (content ++ bytes)) := by
  by_cases none : bytes.isEmpty = true
  · have empty : bytes = .empty :=
      ByteArray.size_eq_zero_iff.mp (by simpa [ByteArray.isEmpty] using none)
    refine ⟨files, file, by simp only [write, if_pos none], rfl, ?_, ?_⟩
    · rw [empty, ByteArray.append_empty, atEnd]
    · rw [empty, ByteArray.append_empty, holds]
  · refine ⟨files.put file.location (.file (content ++ bytes)),
      { file with offset := file.offset + bytes.size }, ?_, rfl, ?_, ?_⟩
    · simp only [write, if_neg none, holds, atEnd, overwrite_end]
    · simp only [atEnd, ByteArray.size_append]
    · rw [node?_put _ _ _ _ (ne_nil_of_file holds), if_pos rfl]

/-- Flushing brings what has been written into the file. -/
theorem BufferedFile.flush_written (written : FileWriter.Written ⟨files, out⟩ bytes) :
    ∃ files' out', out.flush files = (.ok (), files', out') ∧
      out'.file.location = out.file.location ∧ out'.waiting = .empty ∧
      out'.file.offset = bytes.size ∧
      files'.node? out.file.location = some (.file bytes) := by
  obtain ⟨content, holds, atEnd, rfl⟩ := written
  obtain ⟨files', file', passed, place, offset, stands⟩ := write_end out.waiting holds atEnd
  exact ⟨files', ofFile file', by simp only [flush, passed], place, rfl, offset, stands⟩

theorem BufferedFile.take_written (written : FileWriter.Written ⟨files, out⟩ content)
    (room : out.waiting.size + bytes.size ≤ capacity ∨ out.waiting = .empty) :
    ∃ files' out', out.take bytes files = (.ok (), files', out') ∧
      FileWriter.Written ⟨files', out'⟩ (content ++ bytes) := by
  obtain ⟨stood, holds, atEnd, rfl⟩ := written
  by_cases large : capacity ≤ bytes.size
  · have nothing : out.waiting = .empty := by
      rcases room with room | empty
      · exact ByteArray.size_eq_zero_iff.mp (by omega)
      · exact empty
    obtain ⟨files', file', passed, place, offset, stands⟩ := write_end bytes holds atEnd
    refine ⟨files', { out with file := file' }, by simp only [take, if_pos large, passed], ?_⟩
    refine ⟨_, place ▸ stands, offset, ?_⟩
    rw [nothing, ByteArray.append_empty, ByteArray.append_empty]
  · exact ⟨files, { out with waiting := out.waiting ++ bytes }, by simp only [take, if_neg large],
      stood, holds, atEnd, ByteArray.append_assoc⟩

/-- What is written comes behind what has been written before. -/
theorem FileWriter.write_written {writer : FileWriter} (written : writer.Written content)
    (bytes : ByteArray) :
    ∃ later, writer.write bytes = (.ok (), later) ∧ later.Written (content ++ bytes) := by
  by_cases room : writer.out.waiting.size + bytes.size ≤ BufferedFile.capacity
  · obtain ⟨files, out, passed, behind⟩ := BufferedFile.take_written written (.inl room)
    exact ⟨⟨files, out⟩, by simp only [write, BufferedFile.write, if_pos room, passed], behind⟩
  · obtain ⟨files, out, flushed, place, empty, offset, stands⟩ := BufferedFile.flush_written written
    obtain ⟨files', out', passed, behind⟩ := BufferedFile.take_written
      (⟨content, place ▸ stands, offset, by rw [empty, ByteArray.append_empty]⟩ :
        FileWriter.Written ⟨files, out⟩ content) (.inr empty)
    exact ⟨⟨files', out'⟩, by simp only [write, BufferedFile.write, if_neg room, flushed, passed],
      behind⟩

end

/-- A file that has just been created. -/
theorem FileWriter.Written.start {files : FileSystem} {location : Location}
    (created : files.node? location = some (.file .empty)) :
    Written ⟨files, .ofFile ⟨location, 0⟩⟩ .empty :=
  ⟨.empty, created, rfl, rfl⟩

end SiteIndex

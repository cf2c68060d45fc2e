import Mathlib.Data.List.Infix
import SiteIndex.Proofs.Output.Sink
import SiteIndex.Proofs.Output.Writer

/-!
What a writer that has started on an empty file does to the files that can be read meanwhile: it
adds to the end of its own, and leaves the others as they are.
-/

namespace SiteIndex

open SiteIndex.FileSystem

section
variable {files files' : FileSystem}

theorem FileSystem.content_eq_ok_iff {location : Location} {content : ByteArray} :
    files.content location = .ok content ↔ files.node? location = some (.file content) := by
  unfold FileSystem.content
  constructor
  · intro holds
    split at holds
    · next found =>
      cases holds
      exact found
    all_goals cases holds
  · intro found
    rw [found]

theorem FileSystem.offset_write_le {file file' : OpenFile} {bytes : ByteArray}
    (passed : files.write file bytes = .ok (files', file')) : file.offset ≤ file'.offset := by
  unfold FileSystem.write at passed
  split at passed
  · cases passed
    exact Nat.le_refl _
  · split at passed <;> cases passed
    exact Nat.le_add_right _ _

variable {out out' : BufferedFile} {bytes : ByteArray} {result : Except FileError Unit}

theorem BufferedFile.offset_flush_le (passed : out.flush files = (result, files', out')) :
    out.file.offset ≤ out'.file.offset := by
  unfold flush at passed
  split at passed
  · next written =>
    cases passed
    exact offset_write_le written
  · cases passed
    exact Nat.le_refl _

theorem BufferedFile.offset_take_le (passed : out.take bytes files = (result, files', out')) :
    out.file.offset ≤ out'.file.offset := by
  unfold take at passed
  split at passed
  · split at passed
    · next written =>
      cases passed
      exact offset_write_le written
    · cases passed
      exact Nat.le_refl _
  · cases passed
    exact Nat.le_refl _

theorem BufferedFile.offset_write_le (passed : out.write bytes files = (result, files', out')) :
    out.file.offset ≤ out'.file.offset := by
  unfold write at passed
  split at passed
  · exact offset_take_le passed
  · split at passed
    · next flushed =>
      exact Nat.le_trans (offset_flush_le flushed) (offset_take_le passed)
    · next flushed _ =>
      exact offset_flush_le passed

end

namespace FileWriter

/-- What has been written: what stands in the file, and behind it what waits. -/
def written (writer : FileWriter) : ByteArray :=
  ((writer.files.content writer.out.file.location).toOption.getD .empty) ++ writer.out.waiting

theorem Written.written_eq {writer : FileWriter} {bytes : ByteArray} (wrote : writer.Written bytes) :
    writer.written = bytes := by
  obtain ⟨content, holds, -, rfl⟩ := wrote
  rw [written, content_eq_ok_iff.mpr holds]
  rfl

/-- A writer that has started on an empty file keeps all that is written. -/
theorem Written.collects {writer : FileWriter} {bytes : ByteArray} (wrote : writer.Written bytes) :
    FileWriter.sink.Collects FileWriter.written writer := by
  intro before more
  have step (writer : FileWriter) (more : ByteArray) (wrote : ∃ all, writer.Written all) :
      ∃ all, (sink.write more writer).2.Written all := by
    obtain ⟨all, wrote⟩ := wrote
    obtain ⟨later, passed, behind⟩ := write_written wrote more
    have reached : (sink.write more writer).2 = later := congrArg Prod.snd passed
    exact ⟨_, reached ▸ behind⟩
  obtain ⟨all, wrote⟩ := Sink.holds_throughout step ⟨bytes, wrote⟩ before
  obtain ⟨later, passed, behind⟩ := write_written wrote more
  change (FileWriter.write more _).1 = _ ∧ (FileWriter.write more _).2.written = _
  rw [passed, behind.written_eq, wrote.written_eq]
  exact ⟨rfl, rfl⟩

/-- What stands in the file stays at its beginning, since writing goes on behind it. -/
theorem Written.prefix_content {writer later : FileWriter} {stood now all bytes : ByteArray}
    (wrote : writer.Written all)
    (stands : writer.files.node? writer.out.file.location = some (.file stood))
    (behind : later.Written (all ++ bytes))
    (stands' : later.files.node? later.out.file.location = some (.file now))
    (further : writer.out.file.offset ≤ later.out.file.offset) :
    stood.data.toList <+: now.data.toList := by
  obtain ⟨stood, holds, atEnd, rfl⟩ := wrote
  obtain ⟨now, holds', atEnd', whole⟩ := behind
  cases holds.symm.trans stands
  cases holds'.symm.trans stands'
  have lists := congrArg (fun all => all.data.toList) whole
  simp only [ByteArray.data_append, Array.toList_append, List.append_assoc] at lists
  refine List.prefix_of_prefix_length_le (List.prefix_append _ _)
    (by rw [lists]; exact List.prefix_append _ _) ?_
  rw [atEnd, atEnd'] at further
  simpa using further

/-- Writing has left the file at `location` readable, in which `now` was. It may have grown if it
is the one that is written to, and is otherwise as it was. -/
structure Adds (location : Location) (now : ByteArray) (writer later : FileWriter) : Prop where
  wrote : ∃ all, later.Written all
  own : later.out.file.location = writer.out.file.location
  holds : ∃ content, later.files.content location = .ok content ∧
    now.data.toList <+: content.data.toList ∧ (location ≠ writer.out.file.location → content = now)

theorem Written.adds {writer : FileWriter} {all : ByteArray} (wrote : writer.Written all)
    {location : Location} {now : ByteArray} (holds : writer.files.content location = .ok now)
    (bytes : ByteArray) : Adds location now writer (FileWriter.sink.write bytes writer).2 := by
  obtain ⟨later, passed, behind⟩ := write_written wrote bytes
  have ⟨stood, stands, _⟩ := wrote
  obtain ⟨out', stood', place, run⟩ := writer.out.write_file bytes stood
  obtain ⟨files', passed', rewritten⟩ := run writer.files stands
  have reached : FileWriter.sink.write bytes writer = (.ok (), ⟨files', out'⟩) := by
    change FileWriter.write bytes writer = _
    rw [FileWriter.write, passed']
  cases passed.symm.trans reached
  rw [reached]
  refine ⟨⟨_, behind⟩, place, ?_⟩
  by_cases own : location = writer.out.file.location
  · subst own
    cases stands.symm.trans (content_eq_ok_iff.mp holds)
    exact ⟨stood', content_eq_ok_iff.mpr rewritten.holds,
      wrote.prefix_content stands behind (place.symm ▸ rewritten.holds)
        (BufferedFile.offset_write_le passed'), fun other => absurd rfl other⟩
  · have shown := rewritten.alike.shown location own
    rw [content_eq_ok_iff] at holds
    exact ⟨now, content_eq_ok_iff.mpr (shown.symm.trans holds), List.prefix_refl _, fun _ => rfl⟩

/-- A writer that has started on an empty file adds to the end of that file, and to no other. -/
theorem Written.grows {writer : FileWriter} {all : ByteArray} (wrote : writer.Written all)
    {location : Location} {now : ByteArray} (holds : writer.files.content location = .ok now) :
    FileWriter.sink.Grows location writer := by
  have step (writer : FileWriter) (bytes : ByteArray)
      (stands : (∃ all, writer.Written all) ∧ ∃ now, writer.files.content location = .ok now) :
      (∃ all, (FileWriter.sink.write bytes writer).2.Written all) ∧
        ∃ now, (FileWriter.sink.write bytes writer).2.files.content location = .ok now := by
    obtain ⟨⟨all, wrote⟩, now, holds⟩ := stands
    obtain ⟨behind, -, content, holds', -⟩ := wrote.adds holds bytes
    exact ⟨behind, content, holds'⟩
  intro before bytes
  obtain ⟨⟨all, wrote⟩, now, holds⟩ := Sink.holds_throughout step ⟨⟨all, wrote⟩, now, holds⟩ before
  obtain ⟨-, -, later, holds', grown, -⟩ := wrote.adds holds bytes
  exact ⟨now, later, holds, holds', grown⟩

theorem Written.keeps_others {writer : FileWriter} {all : ByteArray} (wrote : writer.Written all)
    {location : Location} (other : location ≠ writer.out.file.location) {content : ByteArray}
    (holds : writer.files.content location = .ok content) :
    FileWriter.sink.Shows location (· = content) writer := by
  have step (writer : FileWriter) (bytes : ByteArray)
      (stands : (∃ all, writer.Written all) ∧ location ≠ writer.out.file.location ∧
        writer.files.content location = .ok content) :
      (∃ all, (FileWriter.sink.write bytes writer).2.Written all) ∧
        location ≠ (FileWriter.sink.write bytes writer).2.out.file.location ∧
        (FileWriter.sink.write bytes writer).2.files.content location = .ok content := by
    obtain ⟨⟨all, wrote⟩, other, holds⟩ := stands
    obtain ⟨behind, own, now, holds', -, same⟩ := wrote.adds holds bytes
    exact ⟨behind, own ▸ other, same other ▸ holds'⟩
  exact fun before =>
    ⟨content, (Sink.holds_throughout step ⟨⟨all, wrote⟩, other, holds⟩ before).2.2, rfl⟩

/-- All that has been written stands in the file at `place`, up to its end. -/
structure Settled (place : Location) (content : ByteArray) (writer : FileWriter) : Prop where
  atEnd : writer.out = .ofFile ⟨place, content.size⟩
  holds : writer.files.node? place = some (.file content)

theorem Settled.written {place : Location} {content : ByteArray} {writer : FileWriter}
    (settled : Settled place content writer) : writer.Written content := by
  obtain ⟨files, out⟩ := writer
  obtain ⟨rfl, holds⟩ := settled
  exact ⟨content, holds, rfl, ByteArray.append_empty.symm⟩

/-- What would fill the buffer alone goes straight to the file. -/
theorem Settled.write {place : Location} {content : ByteArray} {writer : FileWriter}
    (settled : Settled place content writer) {bytes : ByteArray}
    (large : BufferedFile.capacity ≤ bytes.size) :
    ∃ later, FileWriter.sink.write bytes writer = (.ok (), later) ∧
      Settled place (content ++ bytes) later := by
  obtain ⟨files, out⟩ := writer
  obtain ⟨rfl, holds⟩ := settled
  obtain ⟨files', ⟨place', offset'⟩, passed, rfl, rfl, stands⟩ :=
    @FileSystem.write_end files content ⟨place, content.size⟩ bytes holds rfl
  refine ⟨⟨files', .ofFile ⟨place', (content ++ bytes).size⟩⟩, ?_, rfl, stands⟩
  have flushed : (BufferedFile.ofFile ⟨place', content.size⟩).flush files =
      (.ok (), files, .ofFile ⟨place', content.size⟩) := rfl
  have taken : (BufferedFile.ofFile ⟨place', content.size⟩).take bytes files =
      (.ok (), files', .ofFile ⟨place', (content ++ bytes).size⟩) := by
    simp only [BufferedFile.take, if_pos large, BufferedFile.ofFile, passed]
  change FileWriter.write bytes _ = _
  by_cases room : (BufferedFile.ofFile ⟨place', content.size⟩).waiting.size + bytes.size ≤
      BufferedFile.capacity
  · simp only [FileWriter.write, BufferedFile.write, if_pos room, taken]
  · simp only [FileWriter.write, BufferedFile.write, if_neg room, flushed, taken]

end FileWriter
end SiteIndex

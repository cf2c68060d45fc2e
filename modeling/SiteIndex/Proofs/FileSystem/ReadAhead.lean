import Mathlib.Data.List.Infix
import SiteIndex.FileSystem.ReadAhead
import SiteIndex.Proofs.Text.ByteLine

/-!
What a reader goes on to read: the rest of its chunk, and then what stands in the file behind it.
Taking a line takes the first line of that, and as long as a file only grows, what was still to be
read of it before stays to be read.
-/

namespace SiteIndex

open SiteIndex.Text

namespace ReadAhead

/-- The bytes that are still to be read if the file has `content` in it. -/
def ahead (reader : ReadAhead) (content : ByteArray) : List UInt8 :=
  reader.chunk.data.toList.drop reader.taken ++ content.data.toList.drop reader.offset

theorem ahead_mono (reader : ReadAhead) {content now : ByteArray}
    (begins : content.data.toList <+: now.data.toList) : reader.ahead content <+: reader.ahead now :=
  (List.prefix_append_right_inj _).mpr (begins.drop reader.offset)

theorem stop_eq (content : ByteArray) (offset : Nat) :
    max offset (lineEnd content offset) =
      offset + (leadingLines 1 (content.data.toList.drop offset)).length := by
  rcases Nat.le_total offset content.size with within | outside
  · rw [lineEnd_eq content within]
    omega
  · rw [lineEnd_of_size_le content outside, drop_of_size_le content outside, leadingLines_nil]
    exact Nat.max_eq_left outside

section
variable (content : ByteArray) (offset stop : Nat)

theorem le_chunksEnd : stop ≤ chunksEnd content offset stop :=
  Nat.le_max_left _ _

theorem chunksEnd_le : chunksEnd content offset stop ≤ max stop content.size :=
  Nat.max_le.mpr ⟨Nat.le_max_left _ _, Nat.le_trans (Nat.min_le_left _ _) (Nat.le_max_right _ _)⟩

end

/-- Bytes that were read before more was added, and behind them what is to be read, are what there
is to read by now. -/
theorem take_append_drop {early late : List UInt8} (grown : early <+: late) {start stop : Nat}
    (order : start ≤ stop) (within : stop ≤ max start early.length) :
    (early.drop start).take (stop - start) ++ late.drop stop = late.drop start := by
  have same : (early.drop start).take (stop - start) = (late.drop start).take (stop - start) := by
    refine ((grown.drop start).take (stop - start)).eq_of_length_le ?_
    simp only [List.length_take, List.length_drop]
    omega
  have behind : late.drop stop = (late.drop start).drop (stop - start) := by
    rw [List.drop_drop, Nat.add_sub_cancel' order]
  rw [same, behind, List.take_append_drop]

/-- From a file that holds `now` the first line ahead has been taken. The rest stays ahead, and so
does what is added to the file later. -/
structure Takes (reader : ReadAhead) (now line : ByteArray) (later : ReadAhead) : Prop where
  first : line.data.toList = leadingLines 1 (reader.ahead now)
  onward : ∀ last : ByteArray, now.data.toList <+: last.data.toList →
    line.data.toList ++ later.ahead last = reader.ahead last

/-- Bytes that begin with the first lines of `rest`, and are no more than these where `rest` shows
where the last of them ends: it has enough line feeds, or it is all there is. Whatever comes behind
is from `last`. -/
structure Gathers (lines : Nat) (whole : Prop) (rest last gathered : List UInt8) : Prop where
  leads : leadingLines lines rest <+: gathered
  exact : whole ∨ lines ≤ rest.count 0x0a → gathered = leadingLines lines rest
  within : gathered <+: last
  limited : gathered.count 0x0a ≤ lines

theorem Gathers.nothing {lines : Nat} {whole : Prop} {rest last : List UInt8}
    (none : leadingLines lines rest = []) : Gathers lines whole rest last [] where
  leads := none ▸ List.nil_prefix
  exact _ := none.symm
  within := List.nil_prefix
  limited := Nat.zero_le _

section
variable {reader later : ReadAhead} {now line : ByteArray} (takes : reader.Takes now line later)
include takes

theorem Takes.ahead_eq_nil (none : line.data.toList = []) : reader.ahead now = [] :=
  leadingLines_eq_nil (takes.first.symm.trans none)

theorem Takes.left : (reader.ahead now).drop line.data.toList.length = later.ahead now := by
  rw [← takes.onward now (List.prefix_refl _), List.drop_left]

variable {rest : List UInt8} (ahead : rest <+: reader.ahead now)
include ahead

theorem Takes.head (complete : 0x0a ∈ rest ∨ rest = reader.ahead now) :
    leadingLines 1 rest = line.data.toList := by
  rw [takes.first]
  rcases complete with broken | rfl
  · obtain ⟨more, all⟩ := ahead
    rw [← all, leadingLines_append (List.count_pos_iff.mpr broken)]
  · rfl

theorem Takes.unbroken (unbroken : 0x0a ∉ rest) : rest <+: line.data.toList := by
  obtain ⟨more, all⟩ := ahead
  rw [takes.first, ← all, leadingLines_append_of_not_mem unbroken]
  exact List.prefix_append _ _

/-- The line taken first and what is gathered after it. -/
theorem Takes.gathers {lines : Nat} {whole : Prop} (all : whole → rest = reader.ahead now)
    {last : ByteArray} (grown : now.data.toList <+: last.data.toList) {gathered : List UInt8}
    (gathers : Gathers lines whole (rest.drop line.data.toList.length) (later.ahead last) gathered) :
    Gathers (lines + 1) whole rest (reader.ahead last) (line.data.toList ++ gathered) := by
  have head (complete : 0x0a ∈ rest ∨ rest = reader.ahead now) :
      leadingLines (lines + 1) rest =
        line.data.toList ++ leadingLines lines (rest.drop line.data.toList.length) := by
    rw [leadingLines_succ, takes.head ahead complete]
  constructor
  · -- Without a line feed in it all of `rest` is in the line taken, and more of it may be behind.
    by_cases broken : 0x0a ∈ rest
    · rw [head (.inl broken)]
      exact (List.prefix_append_right_inj _).mpr gathers.leads
    · have within := leadingLines_leads (lines + 1) rest
      exact within.trans ((takes.unbroken ahead broken).trans (List.prefix_append _ _))
  · rintro (known | enough)
    · rw [head (.inr (all known)), gathers.exact (.inl known)]
    · have broken : 0x0a ∈ rest := List.count_pos_iff.mp (Nat.zero_lt_of_lt enough)
      have counted := count_drop_leadingLine broken
      rw [takes.head ahead (.inl broken)] at counted
      rw [head (.inl broken), gathers.exact (.inr (by omega))]
  · rw [← takes.onward last grown]
    exact (List.prefix_append_right_inj _).mpr gathers.within
  · have single := count_leadingLines_le 1 (reader.ahead now)
    rw [← takes.first] at single
    have others := gathers.limited
    rw [List.count_append]
    omega

end

variable (reader : ReadAhead) (now : ByteArray)

/-- A line that ends in the chunk is taken from there. -/
theorem takes_within (fed : 0x0a ∈ reader.chunk.data.toList.drop reader.taken) :
    reader.Takes now (lineAt reader.chunk reader.taken)
      { reader with taken := reader.taken + (lineAt reader.chunk reader.taken).size } := by
  have first := toList_lineAt reader.chunk reader.taken
  have cut := List.prefix_iff_eq_append.mp
    (first ▸ leadingLines_leads 1 (reader.chunk.data.toList.drop reader.taken))
  constructor
  · rw [first, ahead, leadingLines_append (List.count_pos_iff.mpr fed)]
  · intro last _
    rw [List.drop_drop] at cut
    rw [ahead, ahead, ← List.append_assoc]
    exact congrArg (· ++ _) cut

/-- A line that does not is taken from the file, and what is read beyond it becomes the chunk. -/
theorem takes_beyond (unfed : 0x0a ∉ reader.chunk.data.toList.drop reader.taken) {stop : Nat}
    (ends : stop = max reader.offset (lineEnd now reader.offset)) :
    reader.Takes now (lineAt reader.chunk reader.taken ++ now.extract reader.offset stop)
      { reader with
        offset := chunksEnd now reader.offset stop
        chunk := now.extract stop (chunksEnd now reader.offset stop)
        taken := 0 } := by
  have begun := toList_lineAt reader.chunk reader.taken
  rw [leadingLines_of_count_lt (by rw [List.count_eq_zero.mpr unfed]; exact Nat.one_pos)] at begun
  rw [stop_eq] at ends
  have begins := leadingLines_leads 1 (now.data.toList.drop reader.offset)
  have part : (now.extract reader.offset stop).data.toList =
      leadingLines 1 (now.data.toList.drop reader.offset) := by
    rw [toList_extract, ends, Nat.add_sub_cancel_left, ← List.prefix_iff_eq_take.mp begins]
  constructor
  · rw [ByteArray.data_append, Array.toList_append, begun, part, ahead,
      leadingLines_append_of_not_mem unfed]
  · intro last grown
    have inside := begins.length_le
    rw [List.length_drop] at inside
    have line := take_append_drop grown (ends ▸ Nat.le_add_right _ _ : reader.offset ≤ stop) (by omega)
    have chunk := take_append_drop grown (le_chunksEnd now reader.offset stop)
      (chunksEnd_le now reader.offset stop)
    rw [ByteArray.data_append, Array.toList_append, begun, toList_extract, ahead, ahead,
      List.drop_zero, toList_extract, chunk, List.append_assoc, line]

theorem takeLine_ok {files : FileSystem} (holds : files.content reader.location = .ok now) :
    ∃ line later, reader.takeLine files = .ok (line, later) ∧ reader.Takes now line later := by
  unfold takeLine
  dsimp only
  split
  · next ends =>
    exact ⟨_, _, rfl, reader.takes_within now ((endsInLineFeed_lineAt _ _).mp ends)⟩
  · next onward =>
    rw [holds]
    exact ⟨_, _, rfl, reader.takes_beyond now (mt (endsInLineFeed_lineAt _ _).mpr onward) rfl⟩

theorem unended_empty : ¬ endsInLineFeed (lineAt .empty 0) = true := fun ends =>
  nomatch (endsInLineFeed_lineAt _ _).mp ends

theorem takeLine_ofLocation_error {location : Location} {files : FileSystem} {cause : FileError}
    (failed : files.content location = .error cause) :
    (ofLocation location).takeLine files = .error cause := by
  unfold takeLine ofLocation
  rw [if_neg unended_empty]
  dsimp only
  rw [failed]

/-- A reader that has read up to what is left of the last line takes all of that. -/
theorem takeLine_rest {location : Location} {files : FileSystem} {front last : ByteArray}
    (unbroken : 0x0a ∉ last.data.toList) (holds : files.content location = .ok (front ++ last)) :
    takeLine ⟨location, front.size, .empty, 0⟩ files =
      .ok (last, ⟨location, (front ++ last).size, .empty, 0⟩) := by
  have ahead : (front ++ last).data.toList.drop front.size = last.data.toList := by
    rw [ByteArray.data_append, Array.toList_append]
    exact List.drop_left
  have single : leadingLines 1 last.data.toList = last.data.toList :=
    leadingLines_of_count_lt (by rw [List.count_eq_zero.mpr unbroken]; exact Nat.one_pos)
  have stop : max front.size (lineEnd (front ++ last) front.size) = (front ++ last).size := by
    rw [stop_eq, ahead, single, ByteArray.size_append]
    rfl
  have all : chunksEnd (front ++ last) front.size (front ++ last).size = (front ++ last).size :=
    Nat.max_eq_left (Nat.min_le_left _ _)
  have line : lineAt .empty 0 ++ (front ++ last).extract front.size (front ++ last).size = last := by
    apply eq_of_toList_eq
    rw [ByteArray.data_append, Array.toList_append, toList_lineAt, toList_extract, ahead,
      ByteArray.size_append, Nat.add_sub_cancel_left]
    exact List.take_of_length_le (Nat.le_refl _)
  have unread : (front ++ last).extract (front ++ last).size (front ++ last).size = .empty := by
    apply eq_of_toList_eq
    rw [toList_extract, Nat.sub_self]
    rfl
  unfold takeLine
  rw [if_neg unended_empty]
  dsimp only
  rw [holds]
  dsimp only
  rw [stop, all, line, unread]

end ReadAhead
end SiteIndex

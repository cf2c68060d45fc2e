import SiteIndex.Text.Place

/-!
How places of one text lie to one another. Every way of moving on is a number of characters skipped,
skips add up, and a place that has been reached from the start of a text is found again by its offset.
-/

namespace SiteIndex.Text

theorem byteSize_append (first second : List Char) :
    byteSize (first ++ second) = byteSize first + byteSize second := by
  induction first with
  | nil => simp [byteSize]
  | cons c rest ih =>
      change c.utf8Size + byteSize (rest ++ second) = c.utf8Size + byteSize rest + byteSize second
      omega

theorem utf8ByteSize_ofList (chars : List Char) :
    (String.ofList chars).utf8ByteSize = byteSize chars := by
  induction chars with
  | nil => rfl
  | cons c rest ih =>
      have split : String.ofList (c :: rest) = String.singleton c ++ String.ofList rest := by
        rw [← String.toList_inj]
        simp
      change _ = c.utf8Size + byteSize rest
      rw [split, String.utf8ByteSize_append, String.utf8ByteSize_singleton, ih]

theorem byteSize_eq_utf8ByteSize (text : String) : byteSize text.toList = text.utf8ByteSize := by
  rw [← utf8ByteSize_ofList, String.ofList_toList]

namespace Place

theorem rest_past (place : Place) (taken : List Char) :
    (place.past taken).rest = place.rest.drop taken.length := rfl

@[simp] theorem rest_skip (place : Place) (count : Nat) :
    (place.skip count).rest = place.rest.drop count := by
  rw [skip, rest_past, List.length_take]
  rcases Nat.le_total count place.rest.length with h | h
  · rw [Nat.min_eq_left h]
  · rw [Nat.min_eq_right h, List.drop_length, List.drop_eq_nil_of_le h]

theorem past_past (place : Place) (first second : List Char) :
    (place.past first).past second = place.past (first ++ second) := by
  have line : (second.getLast?.map (· == '\n')).getD
      ((first.getLast?.map (· == '\n')).getD place.lineStart) =
      ((first ++ second).getLast?.map (· == '\n')).getD place.lineStart := by
    rw [List.getLast?_append]
    cases second.getLast? <;> simp
  simp only [past, byteSize_append, List.length_append, List.drop_drop, line, Nat.add_assoc]

@[simp] theorem skip_zero (place : Place) : place.skip 0 = place := by
  simp [skip, past, byteSize]

theorem skip_skip (place : Place) (first second : Nat) :
    (place.skip first).skip second = place.skip (first + second) := by
  have split := place.rest.take_add (i := first) (j := second)
  rw [skip, rest_skip, skip, past_past, skip, split]

theorem afterRun_eq_skip (place : Place) (test : Char → Bool) :
    place.afterRun test = place.skip (place.run test).length := by
  have run : place.run test = place.rest.take (place.run test).length :=
    List.prefix_iff_eq_take.mp (List.takeWhile_prefix test)
  rw [afterRun, skip, ← run]

theorem toEnd_eq_skip (place : Place) : place.toEnd = place.skip place.rest.length := by
  rw [toEnd, skip, List.take_length]

/-- A later place, seen from one at which there is text left. -/
def Before (place later : Place) : Prop :=
  0 < place.rest.length ∧ ∃ count, 0 < count ∧ later = place.skip count

namespace Before
variable {place later : Place}

theorem next (more : 0 < place.rest.length) : place.Before (place.skip 1) :=
  ⟨more, 1, Nat.one_pos, rfl⟩

theorem shorter (before : place.Before later) : later.rest.length < place.rest.length := by
  obtain ⟨more, count, moved, rfl⟩ := before
  rw [rest_skip, List.length_drop]
  omega

theorem onward (before : place.Before later) (count : Nat) : place.Before (later.skip count) := by
  obtain ⟨more, past, moved, rfl⟩ := before
  exact ⟨more, past + count, Nat.add_pos_left moved count, skip_skip place past count⟩

theorem of_skip {count : Nat} (before : (place.skip count).Before later) : place.Before later := by
  obtain ⟨more, past, moved, rfl⟩ := before
  rw [rest_skip, List.length_drop] at more
  exact ⟨Nat.lt_of_lt_of_le more (Nat.sub_le _ count), count + past, Nat.add_pos_right count moved,
    skip_skip place count past⟩

end Before

/-- What holds at a place as soon as it holds at all later ones holds at every place. -/
@[elab_as_elim]
theorem forward {motive : Place → Prop}
    (reached : ∀ place, (∀ later, place.Before later → motive later) → motive place)
    (place : Place) : motive place := by
  induction size : place.rest.length using Nat.strongRecOn generalizing place with
  | ind size ih =>
      exact reached place fun later before => ih _ (size ▸ before.shorter) later rfl

/-- The bytes behind a place and those before it add up to the same, wherever it moves. -/
theorem offset_skip_add (place : Place) (count : Nat) :
    (place.skip count).offset + byteSize (place.skip count).rest =
      place.offset + byteSize place.rest := by
  have parts := congrArg byteSize (List.take_append_drop count place.rest)
  rw [byteSize_append] at parts
  rw [rest_skip, ← parts, ← Nat.add_assoc]
  rfl

theorem skip_succ_cons (offset : Nat) (lineStart : Bool) (c : Char) (rest : List Char)
    (count : Nat) :
    (Place.mk offset lineStart (c :: rest)).skip (count + 1) =
      (Place.mk (offset + c.utf8Size) (c == '\n') rest).skip count := by
  rw [Nat.add_comm, ← skip_skip]
  rfl

theorem seek_skip (place : Place) (count : Nat) :
    seek (place.skip count).offset place.offset place.lineStart place.rest =
      some (place.skip count) := by
  obtain ⟨offset, lineStart, rest⟩ := place
  induction count generalizing offset lineStart rest with
  | zero => cases rest <;> simp [seek]
  | succ count ih =>
      cases rest with
      | nil => simp [skip, past, byteSize, seek]
      | cons c rest =>
          have further : offset + c.utf8Size ≤
              ((Place.mk (offset + c.utf8Size) (c == '\n') rest).skip count).offset :=
            Nat.le_add_right _ _
          have wide := c.utf8Size_pos
          rw [skip_succ_cons]
          simp only at further ih ⊢
          unfold seek
          rw [if_neg (by omega), if_neg (by omega)]
          exact ih _ _ _

theorem skip_of_seek {target offset : Nat} {lineStart : Bool} {rest : List Char} {place : Place}
    (found : seek target offset lineStart rest = some place) :
    ∃ count, place = (Place.mk offset lineStart rest).skip count := by
  induction rest generalizing offset lineStart with
  | nil =>
      unfold seek at found
      split at found
      · exact ⟨0, by rw [skip_zero, ← Option.some.inj found]⟩
      · cases found
  | cons c rest ih =>
      unfold seek at found
      split at found
      · exact ⟨0, by rw [skip_zero, ← Option.some.inj found]⟩
      · split at found
        · cases found
        · obtain ⟨count, rfl⟩ := ih found
          exact ⟨count + 1, by rw [skip_succ_cons]⟩

/-- A place with some bytes before it is reached from the start. -/
theorem skip_of_at? {text : List Char} {offset : Nat} {place : Place}
    (found : at? text offset = some place) : ∃ count, place = (start text).skip count :=
  skip_of_seek found

/-- An offset at which a reader has stood in a text leads back to where it stood. -/
theorem at?_start_skip (text : List Char) (count : Nat) :
    at? text ((start text).skip count).offset = some ((start text).skip count) :=
  seek_skip (start text) count

end Place
end SiteIndex.Text

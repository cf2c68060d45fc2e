import SiteIndex.Proofs.Listing.Marks

/-!
Going round a listing. From wherever it is, the cursor comes to the entries that are still ahead of it,
one after another, and then to none, from where all entries are ahead of it again.
-/

namespace SiteIndex.Listing

/-- What is listed first from a point on is listed there, and the rest from the next point on. -/
theorem listed_of_drop {entries rest : List Entry} {index : Nat} {entry : Entry}
    (here : entries.drop index = entry :: rest) :
    index < entries.length ∧ entries[index]? = some entry ∧ entries.drop (index + 1) = rest := by
  have listed : entries[index]? = some entry := by
    rw [← List.head?_drop, here]
    rfl
  refine ⟨(List.getElem?_eq_some_iff.mp listed).1, listed, ?_⟩
  rw [← List.drop_drop, here]
  rfl

namespace Snapshot

/-- The entries that the cursor has not come to yet. -/
def comingEntries (snapshot : Snapshot) : List Entry :=
  match snapshot.cursor with
  | .unset => snapshot.entries
  | .directory i => snapshot.directories.drop (i + 1) ++ snapshot.files
  | .file i => snapshot.files.drop (i + 1)

theorem comingEntries_of_unset {snapshot : Snapshot} (unset : snapshot.cursor = .unset) :
    snapshot.comingEntries = snapshot.entries := by
  simp only [comingEntries, unset]

theorem comingEntries_suffix (snapshot : Snapshot) :
    snapshot.comingEntries <:+ snapshot.entries := by
  unfold comingEntries entries
  cases snapshot.cursor with
  | unset => exact List.suffix_refl _
  | directory i => exact (List.suffix_append_inj_of_length_eq rfl).mpr ⟨List.drop_suffix _ _, rfl⟩
  | file i => exact (List.drop_suffix _ _).trans (List.suffix_append _ _)

/-- The step onto the first file, or past the last entry if there is no file. -/
theorem advance_firstFile {snapshot : Snapshot} (next : snapshot.nextCursor = snapshot.firstFile) :
    match snapshot.files with
    | [] => snapshot.advance = (false, snapshot.resetCursor)
    | entry :: rest => snapshot.advance.1 = true ∧ snapshot.advance.2.selected? = some entry ∧
        snapshot.advance.2.comingEntries = rest := by
  unfold firstFile at next
  cases files : snapshot.files with
  | nil =>
      rw [files] at next
      simp only [advance, next]
      rfl
  | cons entry rest =>
      rw [files] at next
      simp [advance, next, selected?, comingEntries, files]

/-- The step onto a directory that comes after those already passed. -/
theorem advance_directory {snapshot : Snapshot} {index : Nat}
    (next : snapshot.nextCursor = .directory index) {entry : Entry} {rest : List Entry}
    (here : snapshot.directories.drop index = entry :: rest) :
    snapshot.advance.1 = true ∧ snapshot.advance.2.selected? = some entry ∧
      snapshot.advance.2.comingEntries = rest ++ snapshot.files := by
  obtain ⟨_, listed, behind⟩ := listed_of_drop here
  simp [advance, next, selected?, listed, comingEntries, behind]

/-- The cursor goes on to the first of the entries ahead of it, and past the last one to none. -/
theorem advance_eq (snapshot : Snapshot) :
    match snapshot.comingEntries with
    | [] => snapshot.advance = (false, snapshot.resetCursor)
    | entry :: rest => snapshot.advance.1 = true ∧ snapshot.advance.2.selected? = some entry ∧
        snapshot.advance.2.comingEntries = rest := by
  cases cursor : snapshot.cursor with
  | unset =>
      cases directories : snapshot.directories with
      | nil =>
          have next : snapshot.nextCursor = snapshot.firstFile := by
            simp [nextCursor, cursor, firstEntry, directories]
          simpa [comingEntries, cursor, entries, directories] using advance_firstFile next
      | cons entry rest =>
          have next : snapshot.nextCursor = .directory 0 := by
            simp [nextCursor, cursor, firstEntry, directories]
          simpa [comingEntries, cursor, entries, directories] using
            advance_directory next (List.drop_zero.trans directories)
  | directory i =>
      cases ahead : snapshot.directories.drop (i + 1) with
      | nil =>
          have next : snapshot.nextCursor = snapshot.firstFile := by
            simp only [nextCursor, cursor, if_neg (Nat.not_lt.mpr (List.drop_eq_nil_iff.mp ahead))]
          simpa [comingEntries, cursor, ahead] using advance_firstFile next
      | cons entry rest =>
          have next : snapshot.nextCursor = .directory (i + 1) := by
            simp only [nextCursor, cursor, if_pos (listed_of_drop ahead).1]
          simpa [comingEntries, cursor, ahead] using advance_directory next ahead
  | file i =>
      cases ahead : snapshot.files.drop (i + 1) with
      | nil =>
          have past := Nat.not_lt.mpr (List.drop_eq_nil_iff.mp ahead)
          simp [comingEntries, cursor, ahead, advance, nextCursor, if_neg past, resetCursor]
      | cons entry rest =>
          obtain ⟨inside, listed, behind⟩ := listed_of_drop ahead
          simp [comingEntries, cursor, ahead, advance, nextCursor, if_pos inside, selected?, listed,
            behind]

theorem advance_of_nil {snapshot : Snapshot} (none : snapshot.comingEntries = []) :
    snapshot.advance = (false, snapshot.resetCursor) := by
  have next := snapshot.advance_eq
  rwa [none] at next

theorem advance_of_cons {snapshot : Snapshot} {entry : Entry} {rest : List Entry}
    (coming : snapshot.comingEntries = entry :: rest) :
    snapshot.advance.1 = true ∧ snapshot.advance.2.selected? = some entry ∧
      snapshot.advance.2.comingEntries = rest := by
  have next := snapshot.advance_eq
  rwa [coming] at next

theorem selected_of_cons {snapshot : Snapshot} {entry : Entry} {rest : List Entry}
    (coming : snapshot.comingEntries = entry :: rest) : snapshot.advance.2.cursor ≠ .unset := by
  intro unset
  have selected := (advance_of_cons coming).2.1
  simp only [selected?, unset] at selected
  cases selected

/-- How many entries the cursor has come to since it was unset. -/
def passed (snapshot : Snapshot) : Nat :=
  snapshot.entries.length - snapshot.comingEntries.length

theorem passed_add_coming (snapshot : Snapshot) :
    snapshot.passed + snapshot.comingEntries.length = snapshot.entries.length :=
  Nat.sub_add_cancel snapshot.comingEntries_suffix.length_le

theorem passed_of_unset {snapshot : Snapshot} (unset : snapshot.cursor = .unset) :
    snapshot.passed = 0 := by
  rw [passed, comingEntries_of_unset unset, Nat.sub_self]

/-- The cursor goes on by one entry. -/
theorem passed_advance {snapshot : Snapshot} {entry : Entry} {rest : List Entry}
    (coming : snapshot.comingEntries = entry :: rest) :
    snapshot.advance.2.passed = snapshot.passed + 1 := by
  have before := snapshot.passed_add_coming
  have after := snapshot.advance.2.passed_add_coming
  rw [coming, List.length_cons] at before
  rw [(advance_of_cons coming).2.2, show snapshot.advance.2.entries = snapshot.entries from rfl] at after
  omega

end Snapshot
end SiteIndex.Listing

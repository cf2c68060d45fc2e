import SiteIndex.Proofs.Listing.Requests

/-!
The cursor of a listing on its way round. The calls that move it on come to all the entries behind the one
that it is on, then to none, and from there to every entry again.
-/

namespace SiteIndex.Listing

namespace Snapshot

/-- The number of the entry that the cursor is on, counted from one; zero if it is on none. -/
def position (snapshot : Snapshot) : Nat :=
  match snapshot.cursor with
  | .unset => 0
  | .directory i => i + 1
  | .file i => snapshot.directories.length + i + 1

/-- The entries behind the one that the cursor is on are those that it has not come to yet. -/
theorem Sound.comingEntries_eq {snapshot : Snapshot} (sound : snapshot.Sound) :
    snapshot.comingEntries = snapshot.entries.drop snapshot.position := by
  have selects := sound.selects
  rw [selected?_isSome_iff] at selects
  unfold comingEntries position entries
  cases cursor : snapshot.cursor with
  | unset => rfl
  | directory i =>
      have within : i < snapshot.directories.length := by simpa [cursor] using selects
      exact (List.drop_append_of_le_length within).symm
  | file i =>
      have past : snapshot.directories.length ≤ snapshot.directories.length + i + 1 := by omega
      dsimp only
      rw [List.drop_append, List.drop_of_length_le past, List.nil_append, Nat.add_assoc,
        Nat.add_sub_cancel_left]

end Snapshot

namespace Arena

/-- The next calls that move the cursor of a snapshot on all answer that it is on an entry, and these are
the entries that it comes to. -/
inductive Comes (id : Nat) : Arena → List Entry → Arena → Prop
  | already (arena : Arena) : Comes id arena [] arena
  | onward {arena between later : Arena} {entry : Entry} {rest : List Entry}
      (moved : arena.advance id = (true, between))
      (selected : (between.get? id).bind Snapshot.selected? = some entry)
      (further : Comes id between rest later) : Comes id arena (entry :: rest) later

section
variable {arena : Arena} {id : Nat} {snapshot : Snapshot}

/-- A change depends on what is there to be changed. -/
theorem update_congr (found : arena.get? id = some snapshot) {change change' : Snapshot → Snapshot}
    (same : change snapshot = change' snapshot) : arena.update id change = arena.update id change' := by
  refine ext_get? fun other => ?_
  simp only [get?_update]
  by_cases here : id = other
  · subst here
    simp only [found, Option.map_some, if_true, same]
  · simp only [if_neg here]

/-- Where the cursor has moved on to does not count once it is set back. -/
theorem resetCursor_advance (arena : Arena) (id : Nat) :
    (arena.advance id).2.resetCursor id = arena.resetCursor id := by
  refine ext_get? fun other => ?_
  simp only [resetCursor, get?_update, get?_advance, Option.map_map]
  congr 1
  funext snapshot
  simp only [Function.comp]
  split <;> rfl

theorem resetCursor_resetCursor (arena : Arena) (id : Nat) :
    (arena.resetCursor id).resetCursor id = arena.resetCursor id := by
  refine ext_get? fun other => ?_
  simp only [resetCursor, get?_update, Option.map_map]
  congr 1
  funext snapshot
  simp only [Function.comp]
  split <;> rfl

theorem advance_of_found (found : arena.get? id = some snapshot) :
    arena.advance id = (snapshot.advance.1, (arena.advance id).2) := by
  simp only [advance, found]

/-- From wherever it is, the cursor comes to the entries ahead of it, and the next call sets it back. -/
theorem comes_round (found : arena.get? id = some snapshot) :
    ∃ last, Comes id arena snapshot.comingEntries last ∧
      last.advance id = (false, arena.resetCursor id) := by
  generalize ahead : snapshot.comingEntries = entries
  induction entries generalizing arena snapshot with
  | nil =>
      refine ⟨arena, .already arena, ?_⟩
      have past : snapshot.advance.2 = snapshot.resetCursor := by rw [Snapshot.advance_of_nil ahead]
      simp only [advance, found, Snapshot.advance_of_nil ahead]
      exact congrArg (Prod.mk false) (update_congr found past)
  | cons entry rest ih =>
      obtain ⟨moved, selected, left⟩ := Snapshot.advance_of_cons ahead
      have found' := found_advance found
      obtain ⟨last, further, back⟩ := ih found' left
      refine ⟨last, .onward (moved ▸ advance_of_found found) ?_ further, ?_⟩
      · rw [found', Option.bind_some, selected]
      · rw [back, resetCursor_advance]

/-- The arena with the cursor of one snapshot put elsewhere. -/
def point (arena : Arena) (id : Nat) (cursor : Cursor) : Arena :=
  arena.update id fun snapshot => { snapshot with cursor }

theorem advance_point (found : arena.get? id = some snapshot) :
    (arena.advance id).2 = arena.point id snapshot.nextCursor := by
  simp only [advance, found]
  exact update_congr found rfl

end

/-- The snapshot with this number lists what `listing` does, and its cursor goes on to the directory with
the number `index`, or behind the last directory to the first file. -/
structure Reads (listing : Snapshot) (id index : Nat) (arena : Arena) (snapshot : Snapshot) : Prop where
  found : arena.get? id = some snapshot
  directories : snapshot.directories = listing.directories
  files : snapshot.files = listing.files
  next : snapshot.nextCursor =
    if index < listing.directories.length then .directory index else listing.firstFile

section
variable {arena arena' : Arena} {id index : Nat} {listing snapshot : Snapshot} {entry : Entry}
  {rest : List Entry}

theorem Reads.of_unset (found : arena.get? id = some snapshot)
    (directories : snapshot.directories = listing.directories) (files : snapshot.files = listing.files)
    (unset : snapshot.cursor = .unset) : Reads listing id 0 arena snapshot where
  found := found
  directories := directories
  files := files
  next := by
    simp only [Snapshot.nextCursor, unset, Snapshot.firstEntry, Snapshot.firstFile, directories, files]
    cases listing.directories <;> simp

/-- Marks play no part. -/
theorem Reads.remarked (reads : Reads listing id index arena snapshot)
    (same : arena'.unmarked = arena.unmarked) : ∃ snapshot', Reads listing id index arena' snapshot' := by
  obtain ⟨snapshot', found, alike⟩ := found_of_unmarked same reads.found
  obtain ⟨directories, files, cursor⟩ := Snapshot.frame_of_unmarked alike
  refine ⟨snapshot', found, directories.trans reads.directories, files.trans reads.files, ?_⟩
  rw [← reads.next]
  simp only [Snapshot.nextCursor, Snapshot.firstEntry, Snapshot.firstFile, directories, files, cursor]

/-- When a directory has been entered and its cursor set back, the first directory comes next. -/
theorem Reads.of_entered (same : arena'.unmarked =
    ((arena.push listing).resetCursor arena.depth).unmarked) :
    ∃ snapshot, Reads listing arena.depth 0 arena' snapshot := by
  have found : ((arena.push listing).resetCursor arena.depth).get? arena.depth =
      some listing.resetCursor := by
    rw [resetCursor, get?_update, get?_push, Option.map_some, if_pos rfl]
  have start : Reads listing arena.depth 0 _ _ := .of_unset found rfl rfl rfl
  exact start.remarked same

variable (reads : Reads listing id index arena snapshot) (sorted : listing.Sorted)
include reads sorted

theorem Reads.kinds : snapshot.Sorted where
  directories := by rw [reads.directories]; exact sorted.directories
  files := by rw [reads.files]; exact sorted.files

/-- The next directory is the one that is listed next. -/
theorem Reads.nextDirectory_some (here : listing.directories.drop index = entry :: rest) :
    arena.nextDirectory id = (some entry.name, arena.point id (.directory index)) ∧
      ∃ snapshot', Reads listing id (index + 1) (arena.point id (.directory index)) snapshot' := by
  obtain ⟨within, listed, -⟩ := listed_of_drop here
  have next := reads.next
  rw [if_pos within] at next
  have selected := Snapshot.selected?_directory (reads.kinds sorted) (reads.directories ▸ listed)
  refine ⟨?_, { snapshot with cursor := .directory index }, ?_, reads.directories, reads.files, ?_⟩
  · rw [nextDirectory_eq, reads.found, Option.bind_some, advance_point reads.found, next]
    simp only [Snapshot.nextDirectory?, Snapshot.advance, next, selected]
    rfl
  · simp only [point, get?_update, reads.found, Option.map_some, if_true]
  · simp only [Snapshot.nextCursor, reads.directories, Snapshot.firstFile, reads.files]

/-- Behind the last directory there is none, and the cursor goes on to the first file. -/
theorem Reads.nextDirectory_none (past : listing.directories.drop index = []) :
    arena.nextDirectory id = (none, arena.point id listing.firstFile) := by
  have next := reads.next
  rw [if_neg (Nat.not_lt.mpr (List.drop_eq_nil_iff.mp past))] at next
  have filed : snapshot.nextDirectory? = none := by
    have file := Snapshot.selected?_file (reads.kinds sorted) 0
    unfold Snapshot.firstFile at next
    split at next
    · simp only [Snapshot.nextDirectory?, Snapshot.advance, next]
      rfl
    · simp only [Snapshot.nextDirectory?, Snapshot.advance, next, file]
      rfl
  rw [nextDirectory_eq, reads.found, Option.bind_some, filed, advance_point reads.found, next]

end

/-- A directory that is entered gets a snapshot of its own, in which nothing is selected yet. -/
theorem visit_ok {arena later : Arena} {files : FileSystem} {settings : Settings} {parent : Option Nat}
    {path : String} {id : Nat} (entered : arena.visit files settings parent path = .ok (later, id)) :
    ∃ listing : Snapshot, later = arena.push listing ∧ id = arena.depth ∧ listing.Sorted ∧
      listing.cursor = .unset := by
  obtain ⟨entryName, -, rfl, rfl⟩ := enter_ok entered
  exact ⟨_, rfl, rfl, Snapshot.sorted_foldl_insert .., (Snapshot.foldl_insert_frame _ _).2.2.2.1⟩

end Arena
end SiteIndex.Listing

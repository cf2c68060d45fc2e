import SiteIndex.Listing.Visit
import SiteIndex.Proofs.Listing.Marks

/-!
What a snapshot lists and in which order the directories in it are gone to. Every entry put in is
listed once, directories apart from files, and the cursor comes to the directories one after another.
-/

namespace SiteIndex.Listing

theorem insertEntry_perm (entry : Entry) (entries : List Entry) :
    (insertEntry entry entries).Perm (entry :: entries) := by
  induction entries with
  | nil => exact .refl _
  | cons other rest ih =>
      simp only [insertEntry]
      split
      · exact .refl _
      · exact (ih.cons other).trans (.swap entry other rest)

namespace Snapshot

theorem insert_frame (snapshot : Snapshot) (entry : Entry) :
    (snapshot.insert entry).parent = snapshot.parent ∧
      (snapshot.insert entry).entryName = snapshot.entryName ∧
      (snapshot.insert entry).path = snapshot.path ∧
      (snapshot.insert entry).cursor = snapshot.cursor ∧
      (snapshot.insert entry).mark = snapshot.mark := by
  simp only [insert]
  split <;> simp

theorem foldl_insert_frame (listed : List Entry) (snapshot : Snapshot) :
    (listed.foldl insert snapshot).parent = snapshot.parent ∧
      (listed.foldl insert snapshot).entryName = snapshot.entryName ∧
      (listed.foldl insert snapshot).path = snapshot.path ∧
      (listed.foldl insert snapshot).cursor = snapshot.cursor ∧
      (listed.foldl insert snapshot).mark = snapshot.mark := by
  induction listed generalizing snapshot with
  | nil => simp
  | cons entry rest ih =>
      obtain ⟨parent, entryName, path, cursor, mark⟩ := snapshot.insert_frame entry
      simp only [List.foldl_cons, ih, parent, entryName, path, cursor, mark, and_self]

theorem directories_foldl_insert (listed : List Entry) (snapshot : Snapshot) :
    (listed.foldl insert snapshot).directories.Perm
      (listed.filter Entry.isDirectory ++ snapshot.directories) := by
  induction listed generalizing snapshot with
  | nil => exact .refl _
  | cons entry rest ih =>
      refine (ih _).trans ?_
      cases kind : entry.isDirectory with
      | false => simp [insert, kind]
      | true =>
          simp only [insert, kind, if_true, List.filter_cons_of_pos kind, List.cons_append]
          exact ((insertEntry_perm entry _).append_left _).trans List.perm_middle

theorem files_foldl_insert (listed : List Entry) (snapshot : Snapshot) :
    (listed.foldl insert snapshot).files.Perm
      (listed.filter (fun entry => !entry.isDirectory) ++ snapshot.files) := by
  induction listed generalizing snapshot with
  | nil => exact .refl _
  | cons entry rest ih =>
      refine (ih _).trans ?_
      cases kind : entry.isDirectory with
      | true => simp [insert, kind]
      | false =>
          simp only [insert, kind, Bool.false_eq_true, if_false, Bool.not_false, List.filter_cons,
            if_true, List.cons_append]
          exact ((insertEntry_perm entry _).append_left _).trans List.perm_middle

/-- Directories and files are kept apart. -/
structure Sorted (snapshot : Snapshot) : Prop where
  directories : ∀ entry ∈ snapshot.directories, entry.isDirectory = true
  files : ∀ entry ∈ snapshot.files, entry.isDirectory = false

theorem sorted_foldl_insert (listed : List Entry) (parent : Option Nat)
    (entryName : Option String) (path : String) :
    Sorted (listed.foldl insert (.empty parent entryName path)) where
  directories entry within := by
    have member := (directories_foldl_insert listed _).mem_iff.mp within
    simp_all [empty]
  files entry within := by
    have member := (files_foldl_insert listed _).mem_iff.mp within
    simp_all [empty]

theorem mem_entries_foldl_insert {listed : List Entry} {parent : Option Nat}
    {entryName : Option String} {path : String} {entry : Entry}
    (within : entry ∈ (listed.foldl insert (.empty parent entryName path)).entries) :
    entry ∈ listed := by
  rcases List.mem_append.mp within with directory | file
  · have member := (directories_foldl_insert listed _).mem_iff.mp directory
    simp_all [empty]
  · have member := (files_foldl_insert listed _).mem_iff.mp file
    simp_all [empty]

/-- The directories that the cursor has not come to yet. -/
def comingDirectories (snapshot : Snapshot) : List String :=
  match snapshot.cursor with
  | .unset => snapshot.directories.map Entry.name
  | .directory i => (snapshot.directories.drop (i + 1)).map Entry.name
  | .file _ => []

theorem selected?_mem {snapshot : Snapshot} {entry : Entry}
    (selected : snapshot.selected? = some entry) : entry ∈ snapshot.entries := by
  unfold selected? at selected
  split at selected
  · cases selected
  · exact List.mem_append_left _ (List.mem_of_getElem? selected)
  · exact List.mem_append_right _ (List.mem_of_getElem? selected)

/-- The directory, if it is one, that the cursor comes to next. -/
def nextDirectory? (snapshot : Snapshot) : Option String :=
  if snapshot.advance.1 then (snapshot.advance.2.selected?.filter Entry.isDirectory).map Entry.name
  else none

theorem selected?_file {snapshot : Snapshot} (sorted : snapshot.Sorted) (index : Nat) :
    (({ snapshot with cursor := .file index } : Snapshot).selected?.filter Entry.isDirectory) =
      none := by
  simp only [selected?]
  cases found : snapshot.files[index]? with
  | none => rfl
  | some entry => simp [Option.filter, sorted.files entry (List.mem_of_getElem? found)]

theorem selected?_directory {snapshot : Snapshot} (sorted : snapshot.Sorted) {index : Nat}
    {entry : Entry} (listed : snapshot.directories[index]? = some entry) :
    (({ snapshot with cursor := .directory index } : Snapshot).selected?.filter
      Entry.isDirectory) = some entry := by
  simp [selected?, listed, Option.filter, sorted.directories entry (List.mem_of_getElem? listed)]

/-- After the last directory there is none. -/
theorem nextDirectory?_none {snapshot : Snapshot} (sorted : snapshot.Sorted)
    (done : snapshot.comingDirectories = []) : snapshot.nextDirectory? = none := by
  have filed : snapshot.firstFile = .unset ∨ ∃ index, snapshot.firstFile = .file index := by
    unfold firstFile
    split <;> simp
  have past : snapshot.nextCursor = .unset ∨ ∃ index, snapshot.nextCursor = .file index := by
    unfold comingDirectories at done
    unfold nextCursor
    cases cursor : snapshot.cursor with
    | unset =>
      have empty : snapshot.directories = [] := by simpa [cursor] using done
      simp only [firstEntry, empty, List.isEmpty_nil, if_true]
      exact filed
    | directory last =>
      have last : ¬ last + 1 < snapshot.directories.length := by simpa [cursor] using done
      simp only [if_neg last]
      exact filed
    | file last =>
      simp only
      split <;> simp
  rcases past with next | ⟨index, next⟩
  · simp [nextDirectory?, advance, next]
  · simp only [nextDirectory?, advance, next, selected?_file sorted]
    simp

theorem nextDirectory?_some {snapshot : Snapshot} (sorted : snapshot.Sorted) {name : String}
    {rest : List String} (coming : snapshot.comingDirectories = name :: rest) :
    snapshot.nextDirectory? = some name ∧ snapshot.advance.2.comingDirectories = rest := by
  have moved (index : Nat) (next : snapshot.nextCursor = .directory index)
      (here : (snapshot.directories.drop index).map Entry.name = name :: rest) :
      snapshot.nextDirectory? = some name ∧ snapshot.advance.2.comingDirectories = rest := by
    obtain ⟨entry, after, split, rfl, rfl⟩ := List.map_eq_cons_iff.mp here
    have listed : snapshot.directories[index]? = some entry := by
      rw [← List.head?_drop, split]
      rfl
    refine ⟨?_, ?_⟩
    · simp only [nextDirectory?, advance, next]
      rw [selected?_directory sorted listed]
      rfl
    · simp only [comingDirectories, advance, next, ← List.drop_drop, split, List.drop_succ_cons,
        List.drop_zero]
  unfold comingDirectories at coming
  split at coming
  · next unset =>
    refine moved 0 ?_ coming
    cases directories : snapshot.directories with
    | nil => simp [directories] at coming
    | cons _ _ => simp [nextCursor, unset, firstEntry, directories]
  · next index within =>
    refine moved _ ?_ coming
    have inside : index + 1 < snapshot.directories.length := by
      refine Nat.lt_of_not_le fun past => ?_
      simp [List.drop_eq_nil_of_le past] at coming
    simp only [nextCursor, within, if_pos inside]
  · cases coming

theorem mem_of_nextDirectory? {snapshot : Snapshot} (sorted : snapshot.Sorted) {name : String}
    (next : snapshot.nextDirectory? = some name) : name ∈ snapshot.directories.map Entry.name := by
  unfold nextDirectory? at next
  split at next
  · obtain ⟨entry, selected, rfl⟩ := Option.map_eq_some_iff.mp next
    obtain ⟨selected, kind⟩ := Option.filter_eq_some_iff.mp selected
    rcases List.mem_append.mp (selected?_mem selected) with directory | file
    · exact List.mem_map_of_mem directory
    · exact absurd kind (by simp [sorted.files entry file])
  · cases next

end Snapshot

namespace Arena

theorem nextDirectory_eq (arena : Arena) (id : Nat) :
    arena.nextDirectory id =
      ((arena.get? id).bind Snapshot.nextDirectory?, (arena.advance id).2) := by
  unfold nextDirectory advance
  cases found : arena.get? id with
  | none => rfl
  | some snapshot =>
      have moved : (arena.update id fun s => s.advance.2).get? id = some snapshot.advance.2 := by
        simp [get?_update, found]
      cases next : snapshot.advance.1 with
      | false => simp [Snapshot.nextDirectory?, next]
      | true => simp [Snapshot.nextDirectory?, next, moved]

end Arena
end SiteIndex.Listing

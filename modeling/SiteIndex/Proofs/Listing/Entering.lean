import SiteIndex.Proofs.FileSystem.Tree
import SiteIndex.Proofs.Listing.Entries

/-!
Entering a directory and leaving it. A directory that is found is listed: each entry that is let in under
its own name, the directories among them found again by the names that they are listed under. What is
done to the snapshot is forgotten when the directory is left.
-/

namespace SiteIndex.Listing

open SiteIndex.FileSystem

namespace Arena

theorem get?_push (arena : Arena) (snapshot : Snapshot) :
    (arena.push snapshot).get? arena.depth = some snapshot := by
  simp [get?, push, depth]

theorem leave_push (arena : Arena) (snapshot : Snapshot) :
    (arena.push snapshot).leave arena.depth = arena := by
  simp [push, leave, depth]

/-- A cursor that selects nothing stays as it is when it is reset. -/
theorem resetCursor_of_unset {arena : Arena} {id : Nat} {snapshot : Snapshot}
    (found : arena.get? id = some snapshot) (unset : snapshot.cursor = .unset) :
    arena.resetCursor id = arena := by
  refine ext_get? fun other => ?_
  rw [resetCursor, get?_update]
  by_cases here : id = other
  · subst here
    rw [found, Option.map_some, if_pos rfl, Snapshot.resetCursor, ← unset]
  · simp only [if_neg here, Option.map_id']

/-- What happens to a snapshot is forgotten with it. -/
theorem leave_update (arena : Arena) (id : Nat) (change : Snapshot → Snapshot) :
    (arena.update id change).leave id = arena.leave id := by
  simp only [leave, update, Arena.mk.injEq]
  refine List.ext_getElem? fun other => ?_
  simp only [List.getElem?_take, List.getElem?_modify]
  split
  · next below =>
    simp only [if_neg (Nat.ne_of_gt below), id_map']
  · rfl

theorem leave_resetCursor (arena : Arena) (id : Nat) :
    (arena.resetCursor id).leave id = arena.leave id :=
  arena.leave_update id _

/-- Without its marks, an arena is left the way it stands when its last cursor is reset. -/
theorem left_of_unmarked {arena base : Arena} (same : arena.unmarked = base) (id : Nat) :
    ((arena.resetCursor id).leave id).unmarked = base.leave id := by
  rw [leave_resetCursor, unmarked_leave, same]

theorem leave_advance (arena : Arena) (id : Nat) :
    (arena.advance id).2.leave id = arena.leave id := by
  unfold advance
  cases arena.get? id with
  | none => rfl
  | some snapshot => exact arena.leave_update id _

theorem nextDirectory_of_unmarked {arena base : Arena} (same : arena.unmarked = base) (id : Nat) :
    arena.nextDirectory id =
      ((base.get? id).bind Snapshot.nextDirectory?, (arena.advance id).2) := by
  rw [Arena.nextDirectory_eq, ← same, Arena.get?_unmarked]
  cases arena.get? id <;> rfl

theorem selectedIn_congr {arena arena' : Arena} (level : arena.unmarked = arena'.unmarked)
    (parent : Option Nat) : arena.selectedIn parent = arena'.selectedIn parent := by
  cases parent with
  | none => rfl
  | some id =>
      have same := congrArg (·.get? id) level
      simp only [Arena.get?_unmarked] at same
      simp only [Arena.selectedIn, Arena.get]
      cases first : arena.get? id <;> cases second : arena'.get? id <;> simp [first, second] at same
      · rfl
      · next snapshot snapshot' =>
        have selected : snapshot.unmarked.selected? = snapshot'.unmarked.selected? :=
          congrArg Snapshot.selected? same
        change snapshot.selected? = snapshot'.selected? at selected
        simp only [selected]

theorem selectedIn_unmarked (arena : Arena) (parent : Option Nat) :
    arena.unmarked.selectedIn parent = arena.selectedIn parent :=
  selectedIn_congr arena.unmarked_unmarked parent

end Arena

/-- The entries listed in the directory at `path`, which is the one at `directory`. -/
def entriesIn (files : FileSystem) (settings : Settings) (path : String) (directory : Location) :
    List Entry :=
  ((files.childNames directory).filter fun name =>
      Inclusion.classify files settings path name == .include).filterMap fun name =>
    Arena.entryAt? files (Path.join path name) name

/-- The snapshot of the directory at `path` that is taken when the directory is entered. -/
def listingOf (files : FileSystem) (settings : Settings) (parent : Option Nat)
    (entryName : Option String) (path : String) (directory : Location) : Snapshot :=
  (entriesIn files settings path directory).foldl Snapshot.insert (.empty parent entryName path)

section
variable {files : FileSystem} {settings : Settings} {path : String} {directory : Location}

theorem Arena.visit_eq (found : files.find path = .ok (directory, .directory)) (arena : Arena)
    (settings : Settings) (parent : Option Nat) :
    arena.visit files settings parent path =
      (arena.selectedIn parent).map fun entryName =>
        (arena.push (listingOf files settings parent entryName path directory), arena.depth) := by
  simp only [Arena.visit, Arena.enter, list, found]
  cases arena.selectedIn parent <;> rfl

theorem name_of_entryAt? {name : String} {entry : Entry}
    (listed : Arena.entryAt? files (Path.join path name) name = some entry) :
    entry.name = name ∧ (entry.isDirectory = true →
      ∃ location, files.find (Path.join path name) = .ok (location, .directory)) := by
  unfold Arena.entryAt? at listed
  split at listed <;> cases listed
  · exact ⟨rfl, fun kind => nomatch kind⟩
  · next location found => exact ⟨rfl, fun _ => ⟨location, found⟩⟩
  · exact ⟨rfl, fun kind => nomatch kind⟩

theorem of_mem_entriesIn {entry : Entry} (listed : entry ∈ entriesIn files settings path directory) :
    entry.name ∈ files.childNames directory ∧
      Inclusion.classify files settings path entry.name = .include ∧
      (entry.isDirectory = true →
        ∃ location, files.find (Path.join path entry.name) = .ok (location, .directory)) := by
  obtain ⟨name, accepted, made⟩ := List.mem_filterMap.mp listed
  obtain ⟨child, included⟩ := List.mem_filter.mp accepted
  obtain ⟨rfl, kind⟩ := name_of_entryAt? made
  exact ⟨child, eq_of_beq included, kind⟩

theorem names_entriesIn (files : FileSystem) (settings : Settings) (path : String)
    (directory : Location) :
    ((entriesIn files settings path directory).map Entry.name).Sublist
      (files.childNames directory) := by
  have named (names : List String) :
      ((names.filterMap fun name => Arena.entryAt? files (Path.join path name) name).map
        Entry.name).Sublist names := by
    induction names with
    | nil => exact .slnil
    | cons name rest ih =>
        cases made : Arena.entryAt? files (Path.join path name) name with
        | none => simpa only [List.filterMap_cons, made] using ih.cons name
        | some entry =>
            obtain ⟨same, _⟩ := name_of_entryAt? made
            simpa only [List.filterMap_cons, made, List.map_cons, same] using ih.cons_cons name
  exact (named _).trans (List.filter_sublist ..)

variable (files settings path directory) (parent : Option Nat) (entryName : Option String)

/-- Nothing is selected in a snapshot that has just been taken. -/
theorem listingOf_frame :
    (listingOf files settings parent entryName path directory).parent = parent ∧
      (listingOf files settings parent entryName path directory).entryName = entryName ∧
      (listingOf files settings parent entryName path directory).path = path ∧
      (listingOf files settings parent entryName path directory).cursor = .unset ∧
      (listingOf files settings parent entryName path directory).mark = none :=
  Snapshot.foldl_insert_frame _ _

theorem listingOf_sorted : (listingOf files settings parent entryName path directory).Sorted :=
  Snapshot.sorted_foldl_insert ..

theorem listingOf_directories :
    (listingOf files settings parent entryName path directory).directories.Perm
      ((entriesIn files settings path directory).filter Entry.isDirectory) := by
  have directories : (listingOf files settings parent entryName path directory).directories.Perm
      ((entriesIn files settings path directory).filter Entry.isDirectory ++ []) :=
    Snapshot.directories_foldl_insert _ _
  rwa [List.append_nil] at directories

theorem listingOf_comingDirectories :
    (listingOf files settings parent entryName path directory).comingDirectories =
      (listingOf files settings parent entryName path directory).directories.map Entry.name := by
  simp only [Snapshot.comingDirectories,
    (listingOf_frame files settings path directory parent entryName).2.2.2.1]

variable {files settings path directory parent entryName}

section
variable {root : Location} (tree : files.IsTree root)
include tree

theorem listingOf_apart :
    ((listingOf files settings parent entryName path directory).directories.map
      Entry.name).Nodup := by
  refine ((listingOf_directories ..).map Entry.name).nodup_iff.mpr ?_
  exact ((List.filter_sublist ..).map _).nodup
    ((names_entriesIn ..).nodup (tree.nodup_childNames directory))

variable (found : files.find path = .ok (directory, .directory)) (below : root <+: directory)
include found below

/-- A directory listed in the one at `path` is found by its name. -/
theorem listingOf_leads {name : String}
    (within : name ∈ (listingOf files settings parent entryName path directory).directories.map
      Entry.name) :
    Inclusion.classify files settings path name = .include ∧
      files.find (Path.join path name) = .ok (directory ++ [name], .directory) ∧
      files.node? (directory ++ [name]) = some .directory := by
  obtain ⟨entry, member, rfl⟩ := List.mem_map.mp within
  obtain ⟨listed, kind⟩ := List.mem_filter.mp ((listingOf_directories ..).mem_iff.mp member)
  obtain ⟨child, included, leads⟩ := of_mem_entriesIn listed
  obtain ⟨location, entered⟩ := leads kind
  obtain ⟨rfl, stands⟩ := tree.find_entry found below
    (tree.named directory _ below (node?_of_mem_childNames child)) entered
  exact ⟨included, entered, stands⟩

end
end

end SiteIndex.Listing

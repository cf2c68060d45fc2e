import SiteIndex.Proofs.Listing.Coming
import SiteIndex.Proofs.Listing.Histories
import SiteIndex.Proofs.Listing.Sorting

/-!
Arenas that are asked for one thing after another, in vain or not. What a request makes of a snapshot that
it does not drop is said once; from this comes what a snapshot lists, however the requests for it lie
between others, and what holds of every arena that can come about.
-/

namespace SiteIndex.Listing

/-- What one request makes of a snapshot, with the entries that come into it. -/
inductive Snapshot.Stirred (snapshot : Snapshot) : List Entry → Snapshot → Prop
  | remarked {later : Snapshot} (same : later.unmarked = snapshot.unmarked) :
      Stirred snapshot [] later
  | advanced : Stirred snapshot [] snapshot.advance.2
  | reset : Stirred snapshot [] snapshot.resetCursor
  | inserted (entry : Entry) : Stirred snapshot [entry] (snapshot.insert entry)

/-- Directories and other entries are listed apart from each other and in order, and the cursor selects an
entry unless it is unset. -/
structure Snapshot.Sound (snapshot : Snapshot) : Prop where
  sorted : snapshot.Sorted
  directories : (snapshot.directories.map Entry.name).Pairwise NotBehind
  files : (snapshot.files.map Entry.name).Pairwise NotBehind
  selects : snapshot.selected?.isSome = true ↔ snapshot.cursor ≠ .unset

namespace Snapshot

variable {snapshot later : Snapshot} {came inserted : List Entry}

theorem frame_of_unmarked (same : later.unmarked = snapshot.unmarked) :
    later.directories = snapshot.directories ∧ later.files = snapshot.files ∧
      later.cursor = snapshot.cursor := by
  simp only [unmarked, mk.injEq] at same
  obtain ⟨-, -, -, directories, files, cursor, -⟩ := same
  exact ⟨directories, files, cursor⟩

theorem Lists.stirred (lists : snapshot.Lists came) (stirred : snapshot.Stirred inserted later) :
    later.Lists (came ++ inserted) := by
  cases stirred with
  | remarked same =>
      obtain ⟨directories, files, -⟩ := frame_of_unmarked same
      rw [List.append_nil]
      exact ⟨directories ▸ lists.directories, files ▸ lists.files⟩
  | advanced | reset =>
      rw [List.append_nil]
      exact ⟨lists.directories, lists.files⟩
  | inserted entry => exact lists.insert entry

theorem Lists.sorted (lists : snapshot.Lists came) : snapshot.Sorted where
  directories entry within :=
    (List.mem_filter.mp (lists.directories.perm.mem_iff.mp within)).2
  files entry within := by
    simpa using (List.mem_filter.mp (lists.files.perm.mem_iff.mp within)).2

theorem selected?_isSome_iff (snapshot : Snapshot) :
    snapshot.selected?.isSome = true ↔
      match snapshot.cursor with
      | .unset => False
      | .directory i => i < snapshot.directories.length
      | .file i => i < snapshot.files.length := by
  unfold selected?
  cases snapshot.cursor <;> simp

theorem insert_longer (snapshot : Snapshot) (entry : Entry) :
    snapshot.directories.length ≤ (snapshot.insert entry).directories.length ∧
      snapshot.files.length ≤ (snapshot.insert entry).files.length := by
  unfold insert
  split <;> simp [(insertEntry_perm entry _).length_eq]

/-- The cursor goes on to select an entry when others come in before it or behind it. -/
theorem selects_stirred (selects : snapshot.selected?.isSome = true ↔ snapshot.cursor ≠ .unset)
    (stirred : snapshot.Stirred inserted later) :
    later.selected?.isSome = true ↔ later.cursor ≠ .unset := by
  cases stirred with
  | remarked same =>
      obtain ⟨directories, files, cursor⟩ := frame_of_unmarked same
      rw [selected?, directories, files, cursor]
      exact selects
  | advanced =>
      cases coming : snapshot.comingEntries with
      | nil => simp [advance_of_nil coming, resetCursor, selected?]
      | cons entry rest => simp [(advance_of_cons coming).2.1, selected_of_cons coming]
  | reset => simp [resetCursor, selected?]
  | inserted entry =>
      have cursor : (snapshot.insert entry).cursor = snapshot.cursor :=
        (snapshot.insert_frame entry).2.2.2.1
      obtain ⟨directories, files⟩ := snapshot.insert_longer entry
      rw [selected?_isSome_iff] at selects ⊢
      rw [cursor]
      cases at_ : snapshot.cursor with
      | unset => simp
      | directory i =>
          have within : i < snapshot.directories.length := by simpa [at_] using selects
          simp [Nat.lt_of_lt_of_le within directories]
      | file i =>
          have within : i < snapshot.files.length := by simpa [at_] using selects
          simp [Nat.lt_of_lt_of_le within files]

end Snapshot

namespace Arena

/-- What an arena can be asked for. The number may be that of any snapshot, or of none. -/
inductive Request where
  | enter (files : FileSystem) (parent : Option Nat) (path : String) (accepts : String → Bool)
  | leave (id : Nat)
  | advance (id : Nat)
  | insert (id : Nat) (entry : Entry)
  | resetCursor (id : Nat)
  | markWay (id : Nat)
  | clearMarks (id : Nat)
  | nextSegment (id : Nat)
  | pathString (id : Nat)

namespace Request

/-- Whether the snapshot with this number is dropped, if there is one. -/
def Drops (id : Nat) : Request → Prop
  | leave first => first ≤ id
  | _ => False

/-- The entries that come into the snapshot with this number, if there is one. -/
def insertedInto (id : Nat) : Request → List Entry
  | insert other entry => if other = id then [entry] else []
  | _ => []

end Request

/-- What comes of a request. Where a directory cannot be entered, the arena is the one that there was. -/
def after (arena : Arena) : Request → Arena
  | .enter files parent path accepts =>
      match arena.enter files parent path accepts with
      | .ok (later, _) => later
      | .error _ => arena
  | .leave id => arena.leave id
  | .advance id => (arena.advance id).2
  | .insert id entry => arena.update id (·.insert entry)
  | .resetCursor id => arena.resetCursor id
  | .markWay id => arena.markWay id
  | .clearMarks id => arena.clearMarks id
  | .nextSegment id => (arena.nextSegment id).2
  | .pathString id => (arena.pathString id).2

def afterAll (arena : Arena) (requests : List Request) : Arena :=
  requests.foldl after arena

/-- The entries that are let in of the directory at `path`, in the order in which they are found. -/
def entriesFound (files : FileSystem) (path : String) (accepts : String → Bool) : List Entry :=
  match files.list path with
  | .error _ => []
  | .ok names => (names.filter accepts).filterMap fun name =>
      entryAt? files (Path.join path name) name

section
variable {arena later : Arena} {id : Nat} {snapshot : Snapshot} {request : Request}
  {files : FileSystem} {parent : Option Nat} {path : String} {accepts : String → Bool}

/-- A directory that is entered is given the next number, and nothing else changes. -/
theorem enter_ok (entered : arena.enter files parent path accepts = .ok (later, id)) :
    ∃ entryName, arena.selectedIn parent = .ok entryName ∧ id = arena.depth ∧
      later = arena.push ((entriesFound files path accepts).foldl Snapshot.insert
        (.empty parent entryName path)) := by
  unfold enter at entered
  cases selected : arena.selectedIn parent with
  | error cause => simp [selected] at entered
  | ok entryName =>
      refine ⟨entryName, rfl, ?_⟩
      cases names : files.list path with
      | error cause => simp [selected, names] at entered
      | ok names' =>
          simp only [selected, names] at entered
          cases entered
          simp only [entriesFound, names, true_and]

theorem get?_push_of_found (found : arena.get? id = some snapshot) (listing : Snapshot) :
    (arena.push listing).get? id = some snapshot := by
  have within : id < arena.snapshots.length := (List.getElem?_eq_some_iff.mp found).1
  simpa [get?, push, List.getElem?_append_left within] using found

theorem get?_leave (arena : Arena) (first id : Nat) :
    (arena.leave first).get? id = if id < first then arena.get? id else none := by
  simp [get?, leave, List.getElem?_take]

/-- A snapshot that is not dropped goes on to be there. -/
theorem stirred_after (found : arena.get? id = some snapshot) (kept : ¬ request.Drops id) :
    ∃ later, (arena.after request).get? id = some later ∧
      snapshot.Stirred (request.insertedInto id) later := by
  have remarked {arena' : Arena} (same : arena'.unmarked = arena.unmarked) :
      ∃ later, arena'.get? id = some later ∧ snapshot.Stirred [] later := by
    obtain ⟨later, found', alike⟩ := found_of_unmarked same found
    exact ⟨later, found', .remarked alike⟩
  have changed {change : Snapshot → Snapshot} {entries : List Entry} {target : Nat}
      (here : snapshot.Stirred entries (change snapshot)) :
      ∃ later, (arena.update target change).get? id = some later ∧
        snapshot.Stirred (if target = id then entries else []) later := by
    rw [get?_update, found, Option.map_some]
    split
    · exact ⟨_, rfl, here⟩
    · exact ⟨_, rfl, .remarked rfl⟩
  cases request with
  | enter files parent path accepts =>
      simp only [after]
      cases entered : arena.enter files parent path accepts with
      | error cause => exact ⟨snapshot, found, .remarked rfl⟩
      | ok result =>
          obtain ⟨entryName, -, -, same⟩ := enter_ok entered
          refine ⟨snapshot, ?_, .remarked rfl⟩
          change result.1.get? id = some snapshot
          rw [same, get?_push_of_found found]
  | leave first =>
      refine ⟨snapshot, ?_, .remarked rfl⟩
      rw [after, get?_leave, if_pos (Nat.lt_of_not_le kept), found]
  | advance target =>
      rw [after, get?_advance, found, Option.map_some]
      split
      · exact ⟨_, rfl, .advanced⟩
      · exact ⟨_, rfl, .remarked rfl⟩
  | insert target entry => exact changed (.inserted entry)
  | resetCursor target =>
      have reset := @changed Snapshot.resetCursor [] target .reset
      rwa [ite_self] at reset
  | markWay target => exact remarked (arena.unmarked_markWay target)
  | clearMarks target => exact remarked (arena.unmarked_clearMarks target)
  | nextSegment target => exact remarked (arena.unmarked_nextSegment target)
  | pathString target => exact remarked (arena.unmarked_pathString target)

theorem of_get?_push {listing : Snapshot} (absent : arena.get? id = none)
    (found : (arena.push listing).get? id = some snapshot) : snapshot = listing := by
  have past : arena.snapshots.length ≤ id := List.getElem?_eq_none_iff.mp absent
  rw [get?, push, List.getElem?_append_right past, List.getElem?_singleton] at found
  split at found
  · exact (Option.some.inj found).symm
  · cases found

/-- Every snapshot that is there has been there before, or has just been taken. -/
theorem of_after (found : (arena.after request).get? id = some snapshot) :
    (∃ before inserted, arena.get? id = some before ∧ before.Stirred inserted snapshot) ∨
      ∃ came, snapshot.Lists came ∧ snapshot.cursor = .unset := by
  cases earlier : arena.get? id with
  | some before =>
      have kept : ¬ request.Drops id := by
        intro drops
        cases request with
        | leave first =>
            rw [after, get?_leave, if_neg (Nat.not_lt.mpr drops)] at found
            cases found
        | _ => exact drops
      obtain ⟨after', found', stirred⟩ := stirred_after earlier kept
      cases found.symm.trans found'
      exact .inl ⟨before, _, rfl, stirred⟩
  | none =>
      -- only a directory that is entered gets a number that no snapshot had
      have remarked {arena' : Arena} (same : arena'.unmarked = arena.unmarked) :
          arena'.get? id = none :=
        get?_none_of_rungs (rungs_of_unmarked same) earlier
      cases request with
      | enter files parent path accepts =>
          simp only [after] at found
          cases entered : arena.enter files parent path accepts with
          | error cause =>
              rw [entered] at found
              cases earlier.symm.trans found
          | ok result =>
              obtain ⟨entryName, -, -, same⟩ := enter_ok entered
              rw [entered] at found
              change result.1.get? id = some snapshot at found
              rw [same] at found
              obtain rfl := of_get?_push earlier found
              exact .inr ⟨_, Snapshot.lists_foldl_insert parent entryName path _,
                (Snapshot.foldl_insert_frame _ _).2.2.2.1⟩
      | leave first =>
          rw [after, get?_leave, earlier, ite_self] at found
          cases found
      | advance target => simp [after, get?_advance, earlier] at found
      | insert target entry => simp [after, get?_update, earlier] at found
      | resetCursor target => simp [after, resetCursor, get?_update, earlier] at found
      | markWay target => simp [after, remarked (arena.unmarked_markWay target)] at found
      | clearMarks target => simp [after, remarked (arena.unmarked_clearMarks target)] at found
      | nextSegment target => simp [after, remarked (arena.unmarked_nextSegment target)] at found
      | pathString target => simp [after, remarked (arena.unmarked_pathString target)] at found

/-- A snapshot that is not dropped lists what it has listed and what has come since. -/
theorem lists_afterAll {came : List Entry} (found : arena.get? id = some snapshot)
    (lists : snapshot.Lists came) {requests : List Request}
    (kept : ∀ request ∈ requests, ¬ request.Drops id) :
    ∃ later, (arena.afterAll requests).get? id = some later ∧
      later.Lists (came ++ requests.flatMap (·.insertedInto id)) := by
  induction requests generalizing arena snapshot came with
  | nil => exact ⟨snapshot, found, by simpa using lists⟩
  | cons request rest ih =>
      obtain ⟨first, others⟩ := List.forall_mem_cons.mp kept
      obtain ⟨next, found', stirred⟩ := stirred_after found first
      obtain ⟨later, found'', lists'⟩ := ih found' (lists.stirred stirred) others
      refine ⟨later, found'', ?_⟩
      rwa [List.append_assoc, ← List.flatMap_cons] at lists'

theorem after_handled (arena : Arena) (request : Request) :
    arena.after request = arena ∨ Handled arena (arena.after request) := by
  cases request with
  | enter files parent path accepts =>
      simp only [after]
      cases entered : arena.enter files parent path accepts with
      | error cause => exact .inl rfl
      | ok result => exact .inr (.enter files parent path accepts entered)
  | leave id => exact .inr (.leave id)
  | advance id => exact .inr (.advance id)
  | insert id entry => exact .inr (.insert id entry)
  | resetCursor id => exact .inr (.resetCursor id)
  | markWay id => exact .inr (.markWay id)
  | clearMarks id => exact .inr (.clearMarks id)
  | nextSegment id => exact .inr (.nextSegment id)
  | pathString id => exact .inr (.pathString id)

theorem Arises.after (arises : arena.Arises) (request : Request) : (arena.after request).Arises := by
  rcases arena.after_handled request with same | handled
  · rwa [same]
  · exact arises.handled handled

/-- Going up from a snapshot, from each to the one that it hangs on, one comes along these numbers, each
that of a snapshot, to a root. -/
inductive Climbs (arena : Arena) : Nat → List Nat → Prop
  | root {id : Nat} {snapshot : Snapshot} (found : arena.get? id = some snapshot)
      (top : snapshot.parent = none) : Climbs arena id [id]
  | up {id above : Nat} {snapshot : Snapshot} {line : List Nat}
      (found : arena.get? id = some snapshot) (parent : snapshot.parent = some above)
      (further : above < id) (climbs : Climbs arena above line) : Climbs arena id (id :: line)

theorem Founded.hangs (founded : arena.Founded) (found : arena.get? id = some snapshot) :
    Hangs id (snapshot.parent, snapshot.entryName) :=
  founded id _ (by rw [getElem?_rungs, found, Option.map_some])

/-- No bound on the steps cuts a climb short. -/
theorem Founded.climbs (founded : arena.Founded) (present : id < arena.depth) {steps : Nat}
    (enough : id ≤ steps) : arena.Climbs id (arena.lineageWithin steps id) := by
  induction id using Nat.strongRecOn generalizing steps with
  | ind id ih =>
      obtain ⟨snapshot, found⟩ : ∃ snapshot, arena.get? id = some snapshot :=
        ⟨_, List.getElem?_eq_getElem present⟩
      have hangs := founded.hangs found
      generalize parent : snapshot.parent = above at hangs
      generalize snapshot.entryName = name at hangs
      cases hangs with
      | free =>
          unfold lineageWithin
          simp only [found, parent]
          exact .root found parent
      | @below above name before =>
          obtain ⟨steps, rfl⟩ := Nat.exists_eq_succ_of_ne_zero
            (Nat.ne_zero_of_lt (before.trans_le enough))
          unfold lineageWithin
          simp only [found, parent]
          exact .up found parent before
            (ih above before (before.trans present) (Nat.le_of_lt_succ (before.trans_le enough)))

/-- What holds of the snapshots of an arena that has been asked for whatever it may be. -/
structure Sound (arena : Arena) : Prop where
  hangs : ∀ id snapshot, arena.get? id = some snapshot →
    Hangs id (snapshot.parent, snapshot.entryName)
  present : ∀ id snapshot above, arena.get? id = some snapshot → snapshot.parent = some above →
    ∃ parent, arena.get? above = some parent
  climbs : ∀ id snapshot, arena.get? id = some snapshot → arena.Climbs id (arena.lineage id)
  snapshots : ∀ id snapshot, arena.get? id = some snapshot → snapshot.Sound

/-- Of every snapshot, entries have come into it and the cursor selects one unless it is unset. -/
def Kept (arena : Arena) : Prop :=
  ∀ id snapshot, arena.get? id = some snapshot → (∃ came, snapshot.Lists came) ∧
    (snapshot.selected?.isSome = true ↔ snapshot.cursor ≠ .unset)

theorem Kept.after (kept : arena.Kept) (request : Request) : (arena.after request).Kept := by
  intro id snapshot found
  rcases of_after found with ⟨before, inserted, found', stirred⟩ | ⟨came, lists, unset⟩
  · obtain ⟨⟨came, lists⟩, selects⟩ := kept id before found'
    exact ⟨⟨_, lists.stirred stirred⟩, Snapshot.selects_stirred selects stirred⟩
  · exact ⟨⟨came, lists⟩, by simp [Snapshot.selected?, unset]⟩

theorem Sound.of_kept (kept : arena.Kept) (founded : arena.Founded) : arena.Sound where
  hangs _ _ found := founded.hangs found
  present id snapshot above found parent := by
    have within : id < arena.depth := (List.getElem?_eq_some_iff.mp found).1
    have hangs := founded.hangs found
    rw [parent] at hangs
    generalize snapshot.entryName = name at hangs
    cases hangs with
    | below _ before => exact ⟨_, List.getElem?_eq_getElem (before.trans within)⟩
  climbs id snapshot found :=
    founded.climbs (List.getElem?_eq_some_iff.mp found).1 (Nat.le_refl id)
  snapshots id snapshot found := by
    obtain ⟨⟨came, lists⟩, selects⟩ := kept id snapshot found
    exact ⟨lists.sorted, lists.directories.ordered, lists.files.ordered, selects⟩

theorem afterAll_kept (requests : List Request) :
    (empty.afterAll requests).Arises ∧ (empty.afterAll requests).Kept := by
  suffices whole : ∀ arena : Arena, arena.Arises → arena.Kept →
      (arena.afterAll requests).Arises ∧ (arena.afterAll requests).Kept from
    whole empty .empty nofun
  induction requests with
  | nil => exact fun _ arises kept => ⟨arises, kept⟩
  | cons request rest ih =>
      exact fun arena arises kept => ih _ (arises.after request) (kept.after request)

/-- Whatever an arena has been asked for, with whatever numbers, it is sound, and when it is asked to enter
a directory it either stays exactly as it is or gets one snapshot more, with the next number. -/
theorem afterAll_sound (requests : List Request) :
    (empty.afterAll requests).Sound ∧ ∀ files parent path accepts,
      (∃ cause,
        (empty.afterAll requests).enter files parent path accepts = .error cause ∧
          (empty.afterAll requests).after (.enter files parent path accepts) =
            empty.afterAll requests) ∨
        ∃ listing,
          (empty.afterAll requests).enter files parent path accepts =
              .ok ((empty.afterAll requests).push listing, (empty.afterAll requests).depth) ∧
            (empty.afterAll requests).after (.enter files parent path accepts) =
              (empty.afterAll requests).push listing := by
  obtain ⟨arises, kept⟩ := afterAll_kept requests
  refine ⟨.of_kept kept arises.founded, fun files parent path accepts => ?_⟩
  generalize empty.afterAll requests = arena
  simp only [Arena.after]
  cases entered : arena.enter files parent path accepts with
  | error cause => exact .inl ⟨cause, rfl, rfl⟩
  | ok result =>
      obtain ⟨later, id⟩ := result
      obtain ⟨entryName, -, rfl, rfl⟩ := enter_ok entered
      exact .inr ⟨_, rfl, rfl⟩

end

end Arena

/-- Names are totally preordered, letter case apart, and a snapshot lists the directories and the other
entries that have come into it, when it was taken and since, each as a stable sort: a permutation in the
order of the names that keeps the order of those that differ in letter case alone. -/
theorem listings_sorted_stably :
    Std.TransCmp compareNames ∧
      (∀ first second, compareNames first second = .eq ↔ first.toLower = second.toLower) ∧
      (∀ came listed, SortsStably came listed ↔ listed = came.mergeSort Entry.precedes) ∧
      (∀ parent entryName path (came : List Entry),
        (came.foldl Snapshot.insert (.empty parent entryName path)).Lists came) ∧
      ∀ (arena later : Arena) files parent path accepts id (requests : List Arena.Request),
        arena.enter files parent path accepts = .ok (later, id) →
          (∀ request ∈ requests, ¬ request.Drops id) →
            ∃ snapshot, (later.afterAll requests).get? id = some snapshot ∧
              snapshot.Lists (Arena.entriesFound files path accepts ++
                requests.flatMap (·.insertedInto id)) := by
  refine ⟨inferInstance, compareNames_eq_eq, fun _ _ => sortsStably_iff,
    Snapshot.lists_foldl_insert, ?_⟩
  intro arena later files parent path accepts id requests entered kept
  obtain ⟨entryName, -, rfl, rfl⟩ := Arena.enter_ok entered
  exact Arena.lists_afterAll (arena.get?_push _)
    (Snapshot.lists_foldl_insert parent entryName path _) kept

/-- A directory with names that differ in letter case alone. -/
def mixedCase : FileSystem :=
  ⟨[], [
    (["r"], .directory),
    (["r", "b"], .file .empty),
    (["r", "B"], .file .empty),
    (["r", "a"], .directory)]⟩

theorem listings_sorted_stably_mixedCase :
    ∃ later, Arena.empty.enter mixedCase none "r" (fun _ => true) = .ok (later, 0) ∧
      ∃ snapshot,
        (later.afterAll [.advance 0, .insert 0 ⟨"B", 9, false⟩, .leave 1,
          .insert 0 ⟨"A", 0, false⟩]).get? 0 = some snapshot ∧
        snapshot.Lists [⟨"B", 0, false⟩, ⟨"a", 0, true⟩, ⟨"b", 0, false⟩, ⟨"B", 9, false⟩,
          ⟨"A", 0, false⟩] ∧
        snapshot.files = [⟨"A", 0, false⟩, ⟨"B", 0, false⟩, ⟨"b", 0, false⟩, ⟨"B", 9, false⟩] := by
  have entered : Arena.empty.enter mixedCase none "r" (fun _ => true) =
      .ok (⟨[⟨none, none, "r", [⟨"a", 0, true⟩], [⟨"B", 0, false⟩, ⟨"b", 0, false⟩], .unset,
        none⟩]⟩, 0) := by decide +kernel
  have found : Arena.entriesFound mixedCase "r" (fun _ => true) =
      [⟨"B", 0, false⟩, ⟨"a", 0, true⟩, ⟨"b", 0, false⟩] := by decide +kernel
  obtain ⟨-, -, -, -, enters⟩ := listings_sorted_stably
  obtain ⟨snapshot, seen, lists⟩ :=
    enters _ _ _ _ _ _ _ [.advance 0, .insert 0 ⟨"B", 9, false⟩, .leave 1,
      .insert 0 ⟨"A", 0, false⟩] entered (by simp [Arena.Request.Drops])
  rw [found] at lists
  refine ⟨_, entered, snapshot, seen, lists, ?_⟩
  cases Option.some.inj (seen.symm.trans rfl)
  decide +kernel

end SiteIndex.Listing

import SiteIndex.Proofs.Listing.Circling
import SiteIndex.Survey.Walk

/-!
The order in which a survey goes down. The loop that follows the cursor of a directory goes to the
directories that are listed there, in that order, each once, and comes to the first file only when it has
been to all of them.
-/

namespace SiteIndex.Survey

open SiteIndex.Listing

/-- Visits the listed directories, the first of them the one with the number `index`. The cursor is on each
while it is visited, and on `last` afterwards. -/
def visitEach (visit : (name : String) → Progress → Except SurveyError Progress) (id : Nat)
    (last : Cursor) : (index : Nat) → List Entry → Progress → Except SurveyError Progress
  | _, [], progress => .ok { progress with arena := progress.arena.point id last }
  | index, entry :: rest, progress => do
      let progress ← visit entry.name
        { progress with arena := progress.arena.point id (.directory index) }
      visitEach visit id last (index + 1) rest progress

/-- What the survey tells of the directory at `path` itself: its entries, directories before files, and its
news. -/
def Progress.tell (files : FileSystem) (settings : Settings) (path : String) (listing : Snapshot)
    (way : String) (arena : Arena) (progress : Progress) : Progress where
  arena := arena
  directories := progress.directories.push
    ⟨way, (listing.directories ++ listing.files).map (listEntry files settings.conventions path)⟩
  news := progress.news ++ ((newsSidecars files settings path).filterMap
    (listNews? files settings.conventions path way)).toArray

/-- Visits the directory at `path` and then the directories listed in it, one after another. -/
def visitListed (files : FileSystem) (settings : Settings) :
    (levels : Nat) → (parent : Option Nat) → (path : String) → Progress →
      Except SurveyError Progress
  | 0, _, _, progress => .ok progress
  | levels + 1, parent, path, progress =>
      match progress.arena.visit files settings parent path with
      | .error cause => if parent.isSome then .ok progress else .error (.listing cause)
      | .ok (arena, id) => do
          let listing := (arena.get? id).getD (.empty parent none path)
          let (way, arena) := arena.pathString id
          let progress ← visitEach
            (fun name => visitListed files settings levels (some id) (Path.join path name)) id
            listing.firstFile 0 listing.directories
            (progress.tell files settings path listing way (arena.resetCursor id))
          return { progress with arena := progress.arena.leave id }

section
variable {files : FileSystem} {settings : Settings} {id : Nat} {progress later : Progress}
  {parent : Option Nat} {path : String}

/-- A directory that cannot be read is passed over, unless it is the root. -/
theorem visit_refused {cause : ListingError}
    (refused : progress.arena.visit files settings parent path = .error cause) (levels : Nat) :
    visit files settings (levels + 1) parent path progress =
      if parent.isSome then .ok progress else .error (.listing cause) := by
  unfold visit
  rw [refused]

/-- What a survey does with a directory that has been entered. -/
theorem visit_entered {arena : Arena} {listing : Snapshot}
    (entered : progress.arena.visit files settings parent path = .ok (arena, id))
    (found : arena.get? id = some listing) (levels : Nat) :
    visit files settings (levels + 1) parent path progress =
      (visitChildren (fun name => visit files settings levels (some id) (Path.join path name)) id
        (listing.entries.length + 1)
        (progress.tell files settings path listing (arena.pathString id).1
          ((arena.pathString id).2.resetCursor id))).map
        fun later => { later with arena := later.arena.leave id } := by
  obtain ⟨listing', found', alike⟩ :=
    Arena.found_of_unmarked (arena.unmarked_pathString id) found
  obtain ⟨directories, filed, -⟩ := Snapshot.frame_of_unmarked alike
  have entries : listing'.entries = listing.entries := by
    rw [Snapshot.entries, directories, filed, Snapshot.entries]
  conv => lhs; unfold visit
  rw [entered]
  simp only [found', Option.map_some, Option.getD_some, entries]
  rfl

/-- The snapshots are left as they were, but for their marks. -/
def Spares (visit : Progress → Except SurveyError Progress) : Prop :=
  ∀ progress later, visit progress = .ok later → later.arena.unmarked = progress.arena.unmarked

theorem visitChildren_spares {visit : String → Progress → Except SurveyError Progress}
    (spares : ∀ name, Spares (visit name)) {limit : Nat}
    (visited : visitChildren visit id limit progress = .ok later) :
    later.arena.unmarked.leave id = progress.arena.unmarked.leave id := by
  induction limit generalizing progress with
  | zero =>
      cases visited
      rfl
  | succ limit ih =>
      have moved : (progress.arena.advance id).2.unmarked.leave id =
          progress.arena.unmarked.leave id := by
        rw [Arena.unmarked_advance, Arena.leave_advance]
      unfold visitChildren at visited
      rw [Arena.nextDirectory_eq] at visited
      cases next : (progress.arena.get? id).bind Snapshot.nextDirectory? with
      | none =>
          rw [next] at visited
          cases visited
          exact moved
      | some name =>
          simp only [next] at visited
          cases went : visit name { progress with arena := (progress.arena.advance id).2 } with
          | error cause =>
              rw [went] at visited
              cases visited
          | ok between =>
              rw [went] at visited
              rw [ih visited, spares name _ _ went]
              exact moved

theorem visit_spares (files : FileSystem) (settings : Settings) (levels : Nat) (parent : Option Nat)
    (path : String) : Spares (visit files settings levels parent path) := by
  intro progress later visited
  induction levels generalizing parent path progress later with
  | zero =>
      cases visited
      rfl
  | succ levels ih =>
      cases entered : progress.arena.visit files settings parent path with
      | error cause =>
          rw [visit_refused entered] at visited
          split at visited <;> cases visited
          rfl
      | ok result =>
          obtain ⟨arena, id⟩ := result
          obtain ⟨listing, rfl, rfl, -⟩ := Arena.visit_ok entered
          rw [visit_entered entered (progress.arena.get?_push listing)] at visited
          have inside (told : Progress) (between : Progress)
              (went : visitChildren (fun name => visit files settings levels
                (some progress.arena.depth) (Path.join path name)) progress.arena.depth
                (listing.entries.length + 1) told = .ok between) :=
            visitChildren_spares (fun name => ih (some progress.arena.depth) (Path.join path name)) went
          generalize went : visitChildren _ _ _ _ = outcome at visited
          cases outcome with
          | error cause => cases visited
          | ok between =>
              cases visited
              calc (between.arena.leave progress.arena.depth).unmarked
                  = between.arena.unmarked.leave progress.arena.depth := Arena.unmarked_leave ..
                _ = _ := inside _ _ went
                _ = (progress.arena.push listing).unmarked.leave progress.arena.depth := by
                  rw [Progress.tell, Arena.unmarked_resetCursor, Arena.unmarked_pathString,
                    Arena.leave_resetCursor]
                _ = progress.arena.unmarked := by
                  rw [← Arena.unmarked_leave, Arena.leave_push]

/-- The loop goes through the directories that it has not come to yet. -/
theorem visitChildren_eq_visitEach {visit : String → Progress → Except SurveyError Progress}
    (spares : ∀ name, Spares (visit name)) {listing snapshot : Snapshot} (sorted : listing.Sorted)
    {limit index : Nat} (enough : (listing.directories.drop index).length < limit)
    (reads : Arena.Reads listing id index progress.arena snapshot) :
    visitChildren visit id limit progress =
      visitEach visit id listing.firstFile index (listing.directories.drop index) progress := by
  induction limit generalizing index progress snapshot with
  | zero => exact absurd enough (Nat.not_lt_zero _)
  | succ limit ih =>
      unfold visitChildren
      cases here : listing.directories.drop index with
      | nil =>
          rw [reads.nextDirectory_none sorted here]
          rfl
      | cons entry rest =>
          obtain ⟨next, _, reads'⟩ := reads.nextDirectory_some sorted here
          rw [next, visitEach]
          dsimp only
          cases went : visit entry.name
              { progress with arena := progress.arena.point id (.directory index) } with
          | error cause => rfl
          | ok between =>
              obtain ⟨_, reads''⟩ := reads'.remarked (spares entry.name _ _ went)
              have left : listing.directories.drop (index + 1) = rest := (listed_of_drop here).2.2
              rw [here, List.length_cons] at enough
              rw [← left]
              exact ih (left ▸ Nat.lt_of_succ_lt_succ enough) reads''

/-- A survey goes down in the order of its listings. -/
theorem visit_eq_visitListed (files : FileSystem) (settings : Settings) (levels : Nat)
    (parent : Option Nat) (path : String) (progress : Progress) :
    visit files settings levels parent path progress =
      visitListed files settings levels parent path progress := by
  induction levels generalizing parent path progress with
  | zero => rfl
  | succ levels ih =>
      unfold visitListed
      cases entered : progress.arena.visit files settings parent path with
      | error cause => rw [visit_refused entered]
      | ok result =>
          obtain ⟨arena, id⟩ := result
          obtain ⟨listing, rfl, rfl, sorted, unset⟩ := Arena.visit_ok entered
          have found := progress.arena.get?_push listing
          have same : (((progress.arena.push listing).pathString progress.arena.depth).2.resetCursor
              progress.arena.depth).unmarked =
                ((progress.arena.push listing).resetCursor progress.arena.depth).unmarked := by
            rw [Arena.unmarked_resetCursor, Arena.unmarked_pathString, Arena.unmarked_resetCursor]
          obtain ⟨_, reads⟩ := Arena.Reads.of_entered same
          have enough : (listing.directories.drop 0).length < listing.entries.length + 1 := by
            simp only [List.drop_zero, Snapshot.entries, List.length_append]
            omega
          have down : (fun name => visit files settings levels (some progress.arena.depth)
              (Path.join path name)) = fun name =>
                visitListed files settings levels (some progress.arena.depth) (Path.join path name) :=
            funext fun name => funext fun progress => ih _ _ progress
          rw [visit_entered entered found]
          simp only [found, Option.getD_some]
          rw [visitChildren_eq_visitEach (fun _ => visit_spares _ _ _ _ _) sorted enough reads, down]
          rfl

end
end SiteIndex.Survey

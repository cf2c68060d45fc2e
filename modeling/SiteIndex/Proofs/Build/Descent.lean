import SiteIndex.Proofs.Build.Working
import SiteIndex.Proofs.Survey.Descent

/-!
The order in which a build goes down. Whatever is written in a directory, and into whatever files, the
listing that was taken when the directory was entered stays as it was, and the loop that follows its cursor
goes to the directories in it as a survey does.
-/

namespace SiteIndex.Build

open SiteIndex.Listing SiteIndex.Template

/-- An expansion leaves the snapshots as they were, but for marks and the cursor of its directory, whether
it fails or not. -/
theorem kept_still {ε σ : Type} (sink : Sink ε σ) (context : Context) (base : Arena) :
    Kept sink context (fun scene => scene.arena.still context.directory = base)
      (fun scene => scene.arena.still context.directory = base) where
  write := by
    intro scene bytes still
    unfold Action.writeBytes
    by_cases none : bytes.isEmpty = true
    · rw [if_pos none]
      exact still
    · rw [if_neg none]
      rcases sink.write bytes scene.out with ⟨failure | _, out⟩ <;> exact still
  moves id directory still moves := (still_moves directory moves).trans still
  rootSteps _ still := still

namespace Step

/-- Visits the listed directories, the first of them the one with the number `index`. The cursor is on each
while it is visited, and on `last` afterwards. -/
def visitEach (visit : (name : String) → Step Unit) (id : Nat) (last : Cursor) :
    (index : Nat) → List Entry → Step Unit
  | _, [] => modify fun state => { state with arena := state.arena.point id last }
  | index, entry :: rest => do
      modify fun state => { state with arena := state.arena.point id (.directory index) }
      visit entry.name
      visitEach visit id last (index + 1) rest

/-- Visits the directory at `path` and then the directories listed in it, one after another. -/
def visitListed (plan : Plan) : (levels : Nat) → (parent : Option Nat) → (path : String) → Step Unit
  | 0, _, _ => return
  | levels + 1, parent, path => do
      let state ← get
      match state.arena.visit state.files plan.settings parent path with
      | .error cause => if parent.isSome then return else throw (.listing cause)
      | .ok (arena, id) =>
          let listing := (arena.get? id).getD (.empty parent none path)
          set { state with arena }
          let _ ← writeDirectory plan id path (newsSidecars state.files plan.settings path)
          visitEach (fun name => visitListed plan levels (some id) (Path.join path name)) id
            listing.firstFile 0 listing.directories
          modify fun state => { state with arena := state.arena.leave id }

section
variable {plan : Plan} {base : Arena} {id : Nat} {state later : State}

/-- Up to marks, and the cursor of the directory that is being written in, the snapshots stay. -/
abbrev Stays (spot : Option Nat) (base : Arena) {α : Type} (step : Step α) : Prop :=
  Leads (fun state => state.arena.still spot = base) (fun _ state => state.arena.still spot = base)
    (fun _ => True) step

theorem expandFeed_stays (kind : FeedKind) (spot : Option Nat) (news : Option News.Item)
    (suppressed : Bool) : Stays spot base (expandFeed plan kind spot news suppressed) := by
  intro state still result later run
  cases expandFeed_cases run with
  | closed => exact still
  | failed => trivial
  | expanded opened ended =>
      have kept := (kept_still FileWriter.sink (plan.context spot news) base).expand still ended
      simp only [State.fed_arena]
      exact kept

theorem writeBody_stays (kind : FeedKind) (id : Nat) (news : Option News.Item) :
    Stays (some id) base (writeBody plan kind id news) :=
  (expandFeed_stays kind (some id) news false).bind fun _ =>
    Leads.modify fun state still => by rwa [State.setFeed_arena]

theorem announce_stays (id : Nat) (path way sidecar : String) :
    Stays (some id) base (announce plan id path way sidecar) := by
  refine Leads.read fun state still => ?_
  split
  · exact Leads.pure fun _ same => same ▸ still
  · refine Leads.bind (Leads.modify fun _ same => ?_) fun _ => writeBody_stays .newsfeed id _
    rw [same]
    exact still

theorem announceAll_stays (path way : String) (sidecars : List String) :
    Stays (some id) base (announceAll plan id path way sidecars) :=
  .announceAll sidecars (announce_stays id path way)

theorem writeIndex_stays (id : Nat) (path : String) :
    Stays (some id) base (writeIndex plan id path) := by
  intro state still result later run
  have left : later.arena.still (some id) = base := by
    obtain ⟨-, rfl⟩ | ⟨template, created, opened, success⟩ := writeIndex_cases run
    · exact still
    · obtain ⟨outcome, after, scene, ended, left⟩ := writeIndex_expands opened success run
      have kept := (kept_still FileWriter.sink (plan.context (some id) none) base).expand still ended
      obtain ⟨_, rfl, -, rfl⟩ | ⟨_, rfl, -, rfl⟩ := left <;> exact kept
  cases result with
  | ok value => exact left
  | error failure => trivial

/-- Once all has been written that belongs to a directory, its cursor is set back. -/
theorem writeDirectory_leads (path : String) (sidecars : List String) {listing : Snapshot}
    (seen : base.get? id = some listing) :
    Leads (fun state => state.arena.still (some id) = base)
      (fun count state => state.arena.unmarked = base ∧ count = listing.entries.length)
      (fun _ => True) (writeDirectory plan id path sidecars) := by
  have noted (way : String) (index : Bool) :
      Leads (fun state => state.arena.still (some id) = base)
        (fun count state => state.arena.unmarked = base ∧ count = listing.entries.length)
        (fun _ => True) (noteDirectory id path way index) := by
    intro state still result later run
    rw [noteDirectory_apply still seen] at run
    cases run
    exact ⟨(state.arena.unmarked_resetCursor id).trans still, rfl⟩
  have written (way : String) : Leads (fun state => state.arena.still (some id) = base)
      (fun count state => state.arena.unmarked = base ∧ count = listing.entries.length)
      (fun _ => True) (writePages plan id path way sidecars) :=
    (announceAll_stays path way sidecars).bind fun _ => (writeIndex_stays id path).bind fun _ =>
      (writeBody_stays .sitemap id none).bind fun _ => noted way _
  intro state still result later run
  rw [writeDirectory_apply] at run
  exact written _ _ ((state.arena.still_pathString id _).trans still) _ _ run

/-- The snapshots are left as they were, but for their marks. -/
def Spares (step : Step Unit) : Prop :=
  ∀ state later, step state = some (.ok (), later) → later.arena.unmarked = state.arena.unmarked

theorem visitChildren_spares {visit : String → Step Unit} (spares : ∀ name, Spares (visit name))
    {limit : Nat} (visited : visitChildren visit id limit state = some (.ok (), later)) :
    later.arena.unmarked.leave id = state.arena.unmarked.leave id := by
  induction limit generalizing state with
  | zero =>
      cases visited
      rfl
  | succ limit ih =>
      have moved : (state.arena.advance id).2.unmarked.leave id = state.arena.unmarked.leave id := by
        rw [Arena.unmarked_advance, Arena.leave_advance]
      rw [visitChildren_succ visit id limit rfl] at visited
      cases next : (state.arena.unmarked.get? id).bind Snapshot.nextDirectory? with
      | none =>
          rw [next] at visited
          cases visited
          exact moved
      | some name =>
          simp only [next] at visited
          obtain ⟨_, between, went, onward⟩ := bind_ok visited
          rw [ih onward, spares name _ _ went]
          exact moved

/-- What has been written in a directory that has just been entered leaves its listing as it was. -/
theorem writeDirectory_entered {before : Arena} {listing : Snapshot}
    (entered : state.arena = before.push listing) (depth : id = before.depth) {path : String}
    {sidecars : List String} {count : Nat}
    (run : writeDirectory plan id path sidecars state = some (.ok count, later)) :
    later.arena.unmarked = ((before.push listing).resetCursor id).unmarked ∧
      count = listing.entries.length := by
  subst depth
  have seen : (state.arena.still (some before.depth)).get? before.depth =
      some listing.unmarked.resetCursor := by
    have shown := state.arena.get?_still (some before.depth)
    rwa [Option.bind_some, Option.bind_some, entered, Arena.get?_push, Option.map_some, ← entered] at shown
  obtain ⟨unmarked, counted⟩ := writeDirectory_leads path sidecars seen state rfl _ _ run
  refine ⟨?_, counted⟩
  rw [unmarked, entered, Arena.unmarked_resetCursor]
  rfl

/-- Once the children have been visited, what happened to the directory's own snapshot is forgotten. -/
theorem explore_spares {levels : Nat} {path : String} {sidecars : List String} {before : Arena}
    {listing : Snapshot} (entered : state.arena = before.push listing) (depth : id = before.depth)
    (spares : ∀ name, Spares (visit plan levels (some id) (Path.join path name)))
    (run : explore plan levels id path sidecars state = some (.ok (), later)) :
    later.arena.unmarked = before.unmarked := by
  obtain ⟨count, written, early, run⟩ := bind_ok run
  obtain ⟨unmarked, -⟩ := writeDirectory_entered entered depth early
  obtain ⟨_, between, down, ⟨⟩⟩ := bind_ok run
  calc ((between.arena.resetCursor id).leave id).unmarked
      = between.arena.unmarked.leave id := Arena.left_of_unmarked rfl id
    _ = written.arena.unmarked.leave id := visitChildren_spares spares down
    _ = ((before.push listing).leave id).unmarked := by
      rw [unmarked, ← Arena.unmarked_leave, Arena.leave_resetCursor]
    _ = before.unmarked := by rw [depth, Arena.leave_push]

theorem visit_spares (plan : Plan) (levels : Nat) (parent : Option Nat) (path : String) :
    Spares (visit plan levels parent path) := by
  intro state later run
  induction levels generalizing parent path state later with
  | zero =>
      cases run
      rfl
  | succ levels ih =>
      cases entered : state.arena.visit state.files plan.settings parent path with
      | error cause =>
          rw [visit_refused entered] at run
          split at run <;> cases run
          rfl
      | ok result =>
          obtain ⟨arena, id⟩ := result
          obtain ⟨listing, pushed, depth, -⟩ := Arena.visit_ok entered
          rw [visit_entered entered] at run
          exact explore_spares pushed depth (fun name => ih _ _) run

/-- The loop goes through the directories that it has not come to yet. -/
theorem visitChildren_eq_visitEach {visit : String → Step Unit} (spares : ∀ name, Spares (visit name))
    {listing snapshot : Snapshot} (sorted : listing.Sorted) {limit index : Nat}
    (enough : (listing.directories.drop index).length < limit)
    (reads : Arena.Reads listing id index state.arena snapshot) :
    visitChildren visit id limit state =
      visitEach visit id listing.firstFile index (listing.directories.drop index) state := by
  induction limit generalizing index state snapshot with
  | zero => exact absurd enough (Nat.not_lt_zero _)
  | succ limit ih =>
      unfold visitChildren
      rw [get_apply]
      cases here : listing.directories.drop index with
      | nil =>
          rw [reads.nextDirectory_none sorted here]
          rfl
      | cons entry rest =>
          obtain ⟨next, _, reads'⟩ := reads.nextDirectory_some sorted here
          rw [next, visitEach]
          dsimp only
          rw [modify_apply, modify_apply, bind_apply, bind_apply]
          rcases went : visit entry.name { state with arena := state.arena.point id (.directory index) }
            with _ | ⟨failure | _, between⟩
          · rfl
          · rfl
          · obtain ⟨_, reads''⟩ := reads'.remarked (spares entry.name _ _ went)
            have left : listing.directories.drop (index + 1) = rest := (listed_of_drop here).2.2
            rw [here, List.length_cons] at enough
            rw [← left]
            exact ih (left ▸ Nat.lt_of_succ_lt_succ enough) reads''

/-- A build goes down in the order of its listings. -/
theorem visit_eq_visitListed (plan : Plan) (levels : Nat) (parent : Option Nat) (path : String)
    (state : State) : visit plan levels parent path state = visitListed plan levels parent path state := by
  induction levels generalizing parent path state with
  | zero => rfl
  | succ levels ih =>
      unfold visitListed
      rw [get_apply]
      cases entered : state.arena.visit state.files plan.settings parent path with
      | error cause => rw [visit_refused entered]
      | ok result =>
          obtain ⟨arena, id⟩ := result
          obtain ⟨listing, rfl, rfl, sorted, -⟩ := Arena.visit_ok entered
          have down : (fun name => visit plan levels (some state.arena.depth) (Path.join path name)) =
              fun name => visitListed plan levels (some state.arena.depth) (Path.join path name) :=
            funext fun name => funext fun state => ih _ _ state
          rw [visit_entered entered, explore]
          simp only [Arena.get?_push, Option.getD_some]
          rw [set_apply, bind_apply, bind_apply]
          rcases early : writeDirectory plan state.arena.depth path
              (newsSidecars state.files plan.settings path)
              { state with arena := state.arena.push listing } with _ | ⟨failure | count, written⟩
          · rfl
          · rfl
          · obtain ⟨unmarked, rfl⟩ := writeDirectory_entered rfl rfl early
            obtain ⟨_, reads⟩ := Arena.Reads.of_entered unmarked
            have enough : (listing.directories.drop 0).length < listing.entries.length + 1 := by
              simp only [List.drop_zero, Snapshot.entries, List.length_append]
              omega
            dsimp only
            rw [bind_apply, bind_apply,
              visitChildren_eq_visitEach (fun _ => visit_spares _ _ _ _) sorted enough reads, down]
            simp only [Arena.leave_resetCursor]
            rfl

end
end Step

/-- From wherever it has come to, the cursor of a listing goes through the entries that are still ahead of
it, directories before files, and is then unset once; from there it goes through all entries again. A survey
tells of the entries in this order, and surveys and builds go down in it, to every directory that is listed,
before they come to the first file. -/
theorem listings_gone_through_in_order :
    (∀ (requests : List Arena.Request) (id : Nat) (snapshot : Snapshot),
      (Arena.empty.afterAll requests).get? id = some snapshot →
        ∃ last last',
          Arena.Comes id (Arena.empty.afterAll requests)
            ((snapshot.directories ++ snapshot.files).drop snapshot.position) last ∧
          last.advance id = (false, (Arena.empty.afterAll requests).resetCursor id) ∧
          Arena.Comes id ((Arena.empty.afterAll requests).resetCursor id)
            (snapshot.directories ++ snapshot.files) last' ∧
          last'.advance id = (false, (Arena.empty.afterAll requests).resetCursor id)) ∧
    (∀ (files : FileSystem) (settings : Settings) (levels : Nat) (parent : Option Nat) (path : String)
      (progress : Survey.Progress),
        Survey.visit files settings levels parent path progress =
          Survey.visitListed files settings levels parent path progress) ∧
    ∀ (plan : Plan) (levels : Nat) (parent : Option Nat) (path : String) (state : State),
      Step.visit plan levels parent path state = Step.visitListed plan levels parent path state := by
  refine ⟨fun requests id snapshot found => ?_, Survey.visit_eq_visitListed, Step.visit_eq_visitListed⟩
  obtain ⟨arises, kept⟩ := Arena.afterAll_kept requests
  have sound : snapshot.Sound := (Arena.Sound.of_kept kept arises.founded).snapshots id snapshot found
  have reset : ((Arena.empty.afterAll requests).resetCursor id).get? id = some snapshot.resetCursor := by
    rw [Arena.resetCursor, Arena.get?_update, found, Option.map_some, if_pos rfl]
  obtain ⟨last, ahead, back⟩ := Arena.comes_round found
  obtain ⟨last', again, back'⟩ := Arena.comes_round reset
  rw [sound.comingEntries_eq] at ahead
  rw [Arena.resetCursor_resetCursor] at back'
  exact ⟨last, last', ahead, back, again, back'⟩

theorem listings_gone_through_in_order_mixedCase :
    ∃ arena last last', arena = Arena.empty.afterAll
        [.enter mixedCase none "r" (fun _ => true), .advance 0, .advance 0] ∧
      Arena.Comes 0 arena [⟨"b", 0, false⟩] last ∧
      last.advance 0 = (false, arena.resetCursor 0) ∧
      Arena.Comes 0 (arena.resetCursor 0) [⟨"a", 0, true⟩, ⟨"B", 0, false⟩, ⟨"b", 0, false⟩] last' ∧
      last'.advance 0 = (false, arena.resetCursor 0) := by
  have found : (Arena.empty.afterAll
      [.enter mixedCase none "r" (fun _ => true), .advance 0, .advance 0]).get? 0 =
        some ⟨none, none, "r", [⟨"a", 0, true⟩], [⟨"B", 0, false⟩, ⟨"b", 0, false⟩], .file 0, none⟩ := by
    decide +kernel
  obtain ⟨last, last', ahead, back, again, back'⟩ := listings_gone_through_in_order.1 _ _ _ found
  exact ⟨_, last, last', rfl, ahead, back, again, back'⟩

end SiteIndex.Build

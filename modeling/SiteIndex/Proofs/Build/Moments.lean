import SiteIndex.Proofs.Build.Confined
import SiteIndex.Proofs.Build.Sparing
import SiteIndex.Proofs.Listing.Reached

/-!
What a build touches, told by the moments at which it enters directories. What is listed in a directory
is decided when it is entered, and what has been written by then may have a say in it; so the
directories that are gone to are those that were listed at the moment at which the one above them was
entered.
-/

namespace SiteIndex.Build

open SiteIndex.Listing SiteIndex.FileSystem SiteIndex.Template

/-- How a loop over the directories listed goes on: from `start`, where `limit` of them may be visited,
it has come to a state in which that many may still be. -/
inductive Goes (visit : String → Step Unit) (id limit : Nat) (start : State) : Nat → State → Prop
  | here : Goes visit id limit start limit start
  | onward {left : Nat} {state later : State} {name : String} {arena : Arena}
      (goes : Goes visit id limit start (left + 1) state)
      (next : state.arena.nextDirectory id = (some name, arena))
      (visited : visit name { state with arena } = some (.ok (), later)) :
      Goes visit id limit start left later

/-- The build comes to visit the directory at `path`, in a certain state. -/
inductive Visits (plan : Plan) (files : FileSystem) :
    (levels : Nat) → (parent : Option Nat) → (path : String) → State → Prop
  | root {state : State} (opened : Step.openSite plan (State.start files) = some (.ok (), state)) :
      Visits plan files deepestWalk none plan.root state
  | child {levels left id count : Nat} {parent : Option Nat} {path name : String}
      {arena arena' : Arena} {state written state' : State}
      (visits : Visits plan files (levels + 1) parent path state)
      (entered : state.arena.visit state.files plan.settings parent path = .ok (arena, id))
      (pages : Step.writeDirectory plan id path (newsSidecars state.files plan.settings path)
        { state with arena } = some (.ok count, written))
      (goes : Goes (fun name => Step.visit plan levels (some id) (Path.join path name)) id
        (count + 1) written (left + 1) state')
      (next : state'.arena.nextDirectory id = (some name, arena')) :
      Visits plan files levels (some id) (Path.join path name) { state' with arena := arena' }

/-- The build enters the directory at `path` when the files are as in `moment`. -/
def Enters (plan : Plan) (files : FileSystem) (path : String) (moment : FileSystem) : Prop :=
  ∃ levels parent state entered, Visits plan files (levels + 1) parent path state ∧
    state.arena.visit state.files plan.settings parent path = .ok entered ∧ moment = state.files

/-- An entry that is listed, and is a directory, at the moment at which its parent is entered. -/
def ListsEntered (plan : Plan) (files : FileSystem) (trail : List String) (name : String) : Prop :=
  ∃ moment, Enters plan files (pathOf plan.root trail) moment ∧
    ListsDirectory moment plan.settings plan.root trail name

/-- What holds of all states of a loop holds where it ends, and no visit in it fails. -/
theorem visitChildren_leads {visit : String → Step Unit} {id limit : Nat} {start : State}
    (Inv : State → Prop)
    (turns : ∀ left state name arena, Goes visit id limit start (left + 1) state → Inv state →
      state.arena.nextDirectory id = (some name, arena) →
      ∀ result later, visit name { state with arena } = some (result, later) →
        result = .ok () ∧ Inv later)
    (ends : ∀ state arena, Inv state → state.arena.nextDirectory id = (none, arena) →
      Inv { state with arena })
    {left : Nat} {state later : State} {result : Except BuildError Unit}
    (goes : Goes visit id limit start left state) (inv : Inv state)
    (run : Step.visitChildren visit id left state = some (result, later)) :
    result = .ok () ∧ Inv later := by
  induction left generalizing state with
  | zero =>
      cases run
      exact ⟨rfl, inv⟩
  | succ left ih =>
      unfold Step.visitChildren at run
      rw [Step.get_apply] at run
      rcases next : state.arena.nextDirectory id with ⟨_ | name, arena⟩
      · rw [next] at run
        cases run
        exact ⟨rfl, ends state arena inv next⟩
      · rw [next] at run
        change (visit name >>= fun _ => Step.visitChildren visit id left) { state with arena } = _
          at run
        obtain ⟨between, visited, inv, onward⟩ :=
          Step.bind_sure run (turns left state name arena goes inv next)
        exact ih (goes.onward next visited) inv onward

section
variable {plan : Plan} {place : Location} {may made filled : Location → Prop} {origin : FileSystem}
  {base : Arena} {trail : List String}

/-- In the loop over the directories listed in one, none of which is being visited. -/
def Looping (plan : Plan) (place : Location) (may made filled : Location → Prop)
    (origin : FileSystem) (base : Arena) (trail : List String) (listed : List Entry)
    (state : State) : Prop :=
  ∃ base' snapshot, Within plan place may made filled origin none base' state ∧
    base'.Spells trail ∧ base'.leave trail.length = base ∧
    base'.get? trail.length = some snapshot ∧ snapshot.Sorted ∧ snapshot.directories = listed

theorem Within.touched {state : State} {arena base' : Arena}
    (within : Within plan place may made filled origin none base state)
    (same : arena.unmarked = base') :
    Within plan place may made filled origin none base' { state with arena } :=
  ⟨within.1.touched, within.2.touched same⟩

/-- The cursor of the directory is moved on. -/
theorem Looping.next {listed : List Entry} {state : State}
    (looping : Looping plan place may made filled origin base trail listed state)
    {next : Option String} {arena : Arena}
    (moved : state.arena.nextDirectory trail.length = (next, arena)) :
    Looping plan place may made filled origin base trail listed { state with arena } ∧
      ∀ name, next = some name → name ∈ listed.map Entry.name ∧
        Arena.Above arena.unmarked (some trail.length) (trail ++ [name]) := by
  obtain ⟨base', snapshot, within, spells, outer, seen, sorted, rfl⟩ := looping
  rw [Arena.nextDirectory_of_unmarked within.2.still, seen, Option.bind_some] at moved
  obtain ⟨rfl, rfl⟩ := Prod.mk.injEq .. ▸ moved
  have still : (state.arena.advance trail.length).2.unmarked = (base'.advance trail.length).2 :=
    (state.arena.unmarked_advance trail.length).trans
      (congrArg (fun arena => (arena.advance trail.length).2) within.2.still)
  have seen' : (base'.advance trail.length).2.get? trail.length = some snapshot.advance.2 :=
    Arena.found_advance seen
  refine ⟨⟨_, snapshot.advance.2, within.touched still, ?_, ?_, seen',
    ⟨sorted.directories, sorted.files⟩, rfl⟩, fun name next =>
      ⟨Snapshot.mem_of_nextDirectory? sorted next, ?_⟩⟩
  · rw [Arena.Spells, Arena.rungs_advance]
    exact spells
  · exact (base'.leave_advance trail.length).trans outer
  · rw [still]
    exact spells.above seen next

section
variable (ground : Ground plan place made filled origin)
include ground

theorem writeDirectory_confined {listing : Snapshot} (spells : (base.push listing).Spells trail)
    (found : origin.find (pathOf plan.root trail) = .ok (place ++ trail, .directory))
    (here : may (place ++ trail ++ [plan.settings.outputs.index])) (sidecars : List String) :
    Step.Leads (Within plan place may made filled origin (some trail.length) (base.push listing))
      (fun count later =>
        Within plan place may made filled origin none (base.push listing) later ∧
          count = listing.entries.length)
      (fun _ => False)
      (Step.writeDirectory plan trail.length (pathOf plan.root trail) sidecars) := by
  rintro state ⟨confined, working⟩ result later run
  rw [Step.writeDirectory_apply] at run
  exact writePages_confined ground spells.get?_last found (List.prefix_append _ _) here _ sidecars _
    ⟨confined.touched, working.told _⟩ _ _ run

/-- A directory listed in one that is being entered is found where it lies. -/
theorem Working.listed {state : State} (working : Working plan place made filled origin none base state)
    (found : origin.find (pathOf plan.root trail) = .ok (place ++ trail, .directory))
    (enters : Enters plan origin (pathOf plan.root trail) state.files) {parent : Option Nat}
    {entryName : Option String} {name : String}
    (listed : name ∈ (listingOf state.files plan.settings parent entryName (pathOf plan.root trail)
      (place ++ trail)).directories.map Entry.name) :
    ListsEntered plan origin trail name ∧
      origin.find (pathOf plan.root (trail ++ [name])) =
        .ok (place ++ (trail ++ [name]), .directory) := by
  have found' := working.found found
  obtain ⟨included, entered, stands⟩ :=
    listingOf_leads (working.tree ground) found' (List.prefix_append _ _) listed
  rw [← pathOf_concat] at entered
  refine ⟨⟨state.files, enters, state.files.childNames (place ++ trail), _, ?_, ?_, included, entered⟩,
    ?_⟩
  · simp only [list, found']
  · exact mem_childNames_iff.mpr (by rw [stands]; simp)
  · rw [← List.append_assoc]
    exact find_extends working.reworked.narrowed entered

variable (here : ∀ trail, Reachable (ListsEntered plan origin) trail →
  may (place ++ trail ++ [plan.settings.outputs.index]))
include here

/-- What a visit touches, it touches in directories that are reached through what is listed at the
moment. -/
theorem visit_confined (levels : Nat) {parent : Option Nat} (above : Arena.Above base parent trail)
    (found : origin.find (pathOf plan.root trail) = .ok (place ++ trail, .directory))
    (reached : Reachable (ListsEntered plan origin) trail) {state later : State}
    (visits : Visits plan origin levels parent (pathOf plan.root trail) state)
    (within : Within plan place may made filled origin none base state)
    {result : Except BuildError Unit}
    (run : Step.visit plan levels parent (pathOf plan.root trail) state = some (result, later)) :
    result = .ok () ∧ Within plan place may made filled origin none base later := by
  induction levels generalizing base parent trail state later result with
  | zero =>
      cases run
      exact ⟨rfl, within⟩
  | succ levels ih =>
      obtain ⟨confined, working⟩ := within
      obtain ⟨entryName, listing, taken, entered, spells, fresh, rests⟩ :=
        above.entered plan.settings working.still (working.found found)
      have moment : Enters plan origin (pathOf plan.root trail) state.files :=
        ⟨levels, parent, state, _, visits, entered, rfl⟩
      rw [Step.visit_entered entered] at run
      have writes := writeDirectory_confined ground spells found (here trail reached)
        (newsSidecars state.files plan.settings (pathOf plan.root trail))
        { state with arena := state.arena.push listing } ⟨confined.touched, working.touched rests⟩
      obtain ⟨_, failed, -⟩ | ⟨_, written, pages, run⟩ := Step.bind_run run
      · exact (writes _ _ failed).elim
      · obtain ⟨within, rfl⟩ := writes _ _ pages
        have looping : Looping plan place may made filled origin base trail listing.directories
            written :=
          ⟨_, listing, within, spells, spells.depth_below ▸ base.leave_push listing,
            spells.get?_last, taken ▸ listingOf_sorted .., rfl⟩
        have loops (outcome : Except BuildError Unit) (between : State)
            (loop : Step.visitChildren (fun name => Step.visit plan levels (some trail.length)
              (Path.join (pathOf plan.root trail) name)) trail.length (listing.entries.length + 1)
              written = some (outcome, between)) :
            outcome = .ok () ∧ Looping plan place may made filled origin base trail
              listing.directories between := by
          refine visitChildren_leads _ ?_ (fun state arena looping next => (looping.next next).1) .here
            looping loop
          -- each directory that the cursor comes to has been listed when this one was entered
          intro left state' name arena goes looping next outcome later run
          obtain ⟨⟨base', snapshot, within, looping⟩, leads⟩ := looping.next next
          obtain ⟨listed, above⟩ := leads name rfl
          obtain ⟨lists, leads⟩ := working.listed ground found moment (taken ▸ listed)
          have visits' := Visits.child visits entered pages goes next
          have still : arena.unmarked = base' := within.2.still
          rw [still] at above
          rw [← pathOf_concat] at run visits'
          obtain ⟨rfl, within⟩ := ih above leads (reached.entry lists) visits' within run
          exact ⟨rfl, base', snapshot, within, looping⟩
        obtain ⟨between, -, ⟨base', _, within, _, outer, -⟩, ⟨⟩⟩ := Step.bind_sure run loops
        exact ⟨rfl, within.touched ((Arena.left_of_unmarked within.2.still _).trans outer)⟩

end
end

section
variable {plan : Plan} {place : Location} {files later : FileSystem}
  {result : Except BuildError Report}

/-- Whatever comes of a build, it touches only what may be touched: the indexes of the directories that
are reached, and the feeds whose templates are there when they are opened. -/
theorem build_confined (valid : plan.settings.defect? = none) (tree : files.IsTree place)
    (rooted : files.find plan.root = .ok (place, .directory)) {may : Location → Prop}
    (indexes : ∀ trail, Reachable (ListsEntered plan files) trail →
      may (place ++ trail ++ [plan.settings.outputs.index]))
    (feeds : ∀ state source, Working plan place (plan.Writes place) (fun _ => False) files none .empty
      state →
      (state.files.readText (Path.join plan.root plan.settings.templates.sitemap) = .ok source →
        may (plan.output place .sitemap)) ∧
      (state.files.readText (Path.join plan.root plan.settings.templates.newsfeed) = .ok source →
        may (plan.output place .newsfeed)))
    (built : build plan files = some (result, later)) (location : Location)
    (touched : later.node? location ≠ files.node? location) : may location := by
  have ground := plan.ground valid tree rooted
  have finishes (kind : FeedKind) : Confines plan place may (plan.Writes place) (fun _ => False) files
      none .empty (Step.finishFeed plan kind) :=
    finishFeed_confined ground kind
  have closes {state : State} (within : Within plan place may (plan.Writes place) (fun _ => False)
      files none .empty state) :
      ∀ location, ((state.closeFeed .sitemap).closeFeed .newsfeed).files.node? location ≠
        files.node? location → may location :=
    (Confined.closeFeed ground (Confined.closeFeed ground within .sitemap) .newsfeed).1.changed
  obtain ⟨state, run, rfl⟩ := build_run built
  refine closes ?_ location touched
  have opens := openSite_confined ground (isName_outputIn valid) (fun kind => .inr ⟨kind, rfl⟩) feeds
    (State.start files) ⟨.start .., .start ..⟩
  obtain ⟨_, failed, rfl⟩ | ⟨_, between, opened, run⟩ := Step.bind_run run
  · exact opens _ _ failed
  · obtain ⟨behind, -, within, run⟩ := Step.bind_sure run fun _ _ =>
      visit_confined ground indexes deepestWalk .root (by rw [List.append_nil]; exact rooted) .root
        (.root opened) (opens _ _ opened)
    have reported : Confines plan place may (plan.Writes place) (fun _ => False) files none .empty
        (do return (← get).report) :=
      Step.Leads.read fun state within => Step.Leads.pure fun _ same => same ▸ within
    have rest := ((finishes .sitemap).bind fun _ => (finishes .newsfeed).bind fun _ => reported)
      behind within _ _ run
    cases result with
    | ok report => exact rest
    | error failure => exact rest.elim

end

end SiteIndex.Build

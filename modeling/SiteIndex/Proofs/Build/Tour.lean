import SiteIndex.Proofs.Build.Working
import SiteIndex.Proofs.Listing.Preorder
import SiteIndex.Proofs.Listing.Trail

/-!
The walk of one build. What holds of the directories visited so far, and goes on to hold with one more
when that is written, holds of all of them in the end: they are visited parents first, and below each of
them go those that it lists, in the order of its listing.
-/

namespace SiteIndex.Build

open SiteIndex.Listing SiteIndex.FileSystem SiteIndex.Template

/-- What keeps a walk going, and what holds of the directories visited on it. `At` holds of a build
whose snapshots are those of a base but for the marks and the cursor of one, `Stands` of the directories
that the walk may come to and where they lie, and `Inv` of what has been visited, whichever snapshots
there are. -/
structure Guides (plan : Plan) (At : Option Nat → Arena → State → Prop)
    (Stands : List String → Location → Prop) (lists : List String → List String → Prop)
    (Inv : List (List String) → State → Prop) (Broken : State → Prop) : Prop where
  still {spot : Option Nat} {base : Arena} {state : State} :
    At spot base state → state.arena.still spot = base
  touched {spot spot' : Option Nat} {base base' : Arena} {state : State} {arena : Arena} :
    At spot base state → arena.still spot' = base' → At spot' base' { state with arena }
  moved {done : List (List String)} {state : State} (arena : Arena) :
    Inv done state → Inv done { state with arena }
  found {base : Arena} {state : State} {trail : List String} {directory : Location} :
    At none base state → Stands trail directory →
      state.files.find (pathOf plan.root trail) = .ok (directory, .directory)
  below {base : Arena} {state : State} {trail : List String} {directory : Location}
    (parent : Option Nat) (entryName : Option String) :
    At none base state → Stands trail directory →
      ∀ name ∈ (listingOf state.files plan.settings parent entryName (pathOf plan.root trail)
        directory).directories.map Entry.name, ∃ inner, Stands (trail ++ [name]) inner
  listed {base : Arena} {state : State} {trail : List String} {directory : Location}
    (parent : Option Nat) (entryName : Option String) :
    At none base state → Stands trail directory →
      lists trail ((listingOf state.files plan.settings parent entryName (pathOf plan.root trail)
        directory).directories.map Entry.name)
  pages (done : List (List String)) {start : State} {trail : List String} {directory : Location}
    {base : Arena} {parent : Option Nat} {entryName : Option String} {listing : Snapshot} :
    At none base start → Stands trail directory →
      listing = listingOf start.files plan.settings parent entryName (pathOf plan.root trail)
        directory →
      (base.push listing).Spells trail →
      Step.Leads
        (fun state => Inv done state ∧ state.files = start.files ∧
          state.arena.unmarked = base.push listing ∧
          At (some trail.length) (base.push listing) state)
        (fun count later => (Inv (done ++ [trail]) later ∧ At none (base.push listing) later) ∧
          count = listing.entries.length)
        Broken
        (Step.writePages plan trail.length (pathOf plan.root trail) (wayOf trail)
          (newsSidecars start.files plan.settings (pathOf plan.root trail)))

section
variable {plan : Plan} {At : Option Nat → Arena → State → Prop}
  {Stands : List String → Location → Prop} {lists : List String → List String → Prop}
  {Inv : List (List String) → State → Prop} {Broken : State → Prop}
  {base : Arena} {trail : List String} {done : List (List String)}

/-- A part of the walk: the directories visited on it come behind those that are done. -/
abbrev Leg (At : Option Nat → Arena → State → Prop) (Inv : List (List String) → State → Prop)
    (Broken : State → Prop) (base : Arena) (done : List (List String))
    (Visits : List (List String) → Prop) (step : Step Unit) : Prop :=
  Step.Leads (fun state => Inv done state ∧ At none base state)
    (fun _ later => ∃ visited, Visits visited ∧ Inv (done ++ visited) later ∧ At none base later)
    Broken step

namespace Guides

variable (guides : Guides plan At Stands lists Inv Broken)
include guides

theorem onward {state : State} {arena base' : Arena} (inv : Inv done state)
    (here : At none base state) (same : arena.unmarked = base') :
    Inv done { state with arena } ∧ At none base' { state with arena } :=
  ⟨guides.moved arena inv, guides.touched here same⟩

/-- The directories that the cursor still comes to are gone to one after another. -/
theorem visitChildren {levels : Nat} {visit : String → Step Unit}
    (visits : ∀ name done base, Arena.Above base (some trail.length) (trail ++ [name]) →
      (∃ inner, Stands (trail ++ [name]) inner) →
      Leg At Inv Broken base done (Toured lists levels (trail ++ [name])) (visit name))
    (limit : Nat) (names : List String) (enough : names.length < limit)
    (spells : base.Spells trail) {snapshot : Snapshot}
    (seen : base.get? trail.length = some snapshot) (sorted : snapshot.Sorted)
    (coming : snapshot.comingDirectories = names)
    (stands : ∀ name ∈ names, ∃ inner, Stands (trail ++ [name]) inner) :
    Step.Leads (fun state => Inv done state ∧ At none base state)
      (fun _ later => ∃ visits base',
        List.Forall₂ (fun name => Toured lists levels (trail ++ [name])) names visits ∧
        base'.leave trail.length = base.leave trail.length ∧
        Inv (done ++ visits.flatten) later ∧ At none base' later)
      Broken (Step.visitChildren visit trail.length limit) := by
  induction limit generalizing done base names snapshot with
  | zero => omega
  | succ limit ih =>
      rintro state ⟨inv, here⟩ result later run
      have still : state.arena.unmarked = base := guides.still here
      rw [Step.visitChildren_succ visit trail.length limit still, seen, Option.bind_some] at run
      have moved := guides.onward inv here ((state.arena.unmarked_advance trail.length).trans
        (congrArg (fun arena => (arena.advance trail.length).2) still))
      cases names with
      | nil =>
          rw [Snapshot.nextDirectory?_none sorted coming] at run
          cases run
          refine ⟨[], _, .nil, base.leave_advance trail.length, ?_⟩
          rw [List.flatten_nil, List.append_nil]
          exact moved
      | cons name rest =>
          obtain ⟨next, left⟩ := Snapshot.nextDirectory?_some sorted coming
          rw [next] at run
          have onward : Step.Leads
              (fun state => Inv done state ∧ At none (base.advance trail.length).2 state)
              (fun _ later => ∃ visits base',
                List.Forall₂ (fun name => Toured lists levels (trail ++ [name])) (name :: rest)
                  visits ∧
                base'.leave trail.length = base.leave trail.length ∧
                Inv (done ++ visits.flatten) later ∧ At none base' later)
              Broken
              (do
                visit name
                Step.visitChildren visit trail.length limit) := by
            refine (visits name done _ (spells.above seen next) (stands name (by simp))).bind
              fun _ => ?_
            rintro between ⟨visited, toured, further⟩
            have seen' : (base.advance trail.length).2.get? trail.length =
                some snapshot.advance.2 :=
              Arena.found_advance seen
            refine (ih rest (Nat.lt_of_succ_lt_succ enough)
              (by rw [Arena.Spells, Arena.rungs_advance]; exact spells) seen'
              ⟨sorted.directories, sorted.files⟩ left fun sibling within =>
                stands sibling (List.mem_cons_of_mem _ within)).leaves ?_ (fun _ => id) between
                  further
            rintro _ _ ⟨visits, base', all, outer, left⟩
            refine ⟨visited :: visits, base', .cons toured all,
              outer.trans (base.leave_advance trail.length), ?_⟩
            rw [List.flatten_cons, ← List.append_assoc]
            exact left
          exact onward _ moved _ _ run

/-- A directory that has been entered is written, and then those that it lists are visited. -/
theorem explore (done : List (List String)) {levels : Nat} {start : State} {directory : Location}
    {parent : Option Nat} {entryName : Option String} {listing : Snapshot}
    (visits : ∀ name done base, Arena.Above base (some trail.length) (trail ++ [name]) →
      (∃ inner, Stands (trail ++ [name]) inner) →
      Leg At Inv Broken base done (Toured lists levels (trail ++ [name]))
        (Step.visit plan levels (some trail.length) (Path.join (pathOf plan.root trail) name)))
    (here : At none base start) (stands : Stands trail directory)
    (taken : listing = listingOf start.files plan.settings parent entryName (pathOf plan.root trail)
      directory)
    (spells : (base.push listing).Spells trail) :
    Step.Leads
      (fun state => Inv done state ∧ state.files = start.files ∧
        state.arena.unmarked = base.push listing ∧
        At (some trail.length) (base.push listing) state)
      (fun _ later => ∃ visited, Toured lists (levels + 1) trail visited ∧
        Inv (done ++ visited) later ∧ At none base later)
      Broken
      (Step.explore plan levels trail.length (pathOf plan.root trail)
        (newsSidecars start.files plan.settings (pathOf plan.root trail))) := by
  have seen := spells.get?_last
  have sorted : listing.Sorted := taken ▸ listingOf_sorted ..
  have coming : listing.comingDirectories = listing.directories.map Entry.name :=
    taken ▸ listingOf_comingDirectories ..
  have written : Step.Leads
      (fun state => Inv done state ∧ state.files = start.files ∧
        state.arena.unmarked = base.push listing ∧
        At (some trail.length) (base.push listing) state)
      (fun count later => (Inv (done ++ [trail]) later ∧ At none (base.push listing) later) ∧
        count = listing.entries.length)
      Broken
      (Step.writeDirectory plan trail.length (pathOf plan.root trail)
        (newsSidecars start.files plan.settings (pathOf plan.root trail))) := by
    rintro state ⟨inv, same, fresh, entered⟩ result later run
    rw [Step.writeDirectory_apply, (spells.of_still (guides.still entered)).pathString] at run
    have told : At (some trail.length) (base.push listing)
        { state with arena := (state.arena.pathString trail.length).2 } :=
      guides.touched entered ((state.arena.still_pathString ..).trans (guides.still entered))
    exact guides.pages done here stands taken spells
      { state with arena := (state.arena.pathString trail.length).2 }
      ⟨guides.moved _ inv, same, (state.arena.unmarked_pathString _).trans fresh, told⟩ _ _ run
  refine written.bind fun count => ?_
  rintro state ⟨between, rfl⟩
  refine ((guides.visitChildren visits (listing.entries.length + 1) _ ?_ spells seen sorted coming
    (taken ▸ guides.below parent entryName here stands)).bind fun _ => ?_) state between
  · simp only [Snapshot.entries, List.length_append, List.length_map]
    omega
  refine Step.Leads.modify ?_
  rintro state ⟨visits, base', all, same, inv, left⟩
  refine ⟨trail :: visits.flatten, ⟨_, visits, ?_, all, rfl⟩, ?_⟩
  · exact taken ▸ guides.listed parent entryName here stands
  · have outer : base'.leave trail.length = base :=
      same.trans (spells.depth_below ▸ base.leave_push listing)
    rw [List.append_assoc, List.singleton_append] at inv
    exact guides.onward inv left ((Arena.left_of_unmarked (guides.still left) _).trans outer)

/-- The directories are visited from one on, and what has been written until then is left alone. -/
theorem visit (levels : Nat) {parent : Option Nat} (above : Arena.Above base parent trail)
    {directory : Location} (stands : Stands trail directory) :
    Leg At Inv Broken base done (Toured lists levels trail)
      (Step.visit plan levels parent (pathOf plan.root trail)) := by
  induction levels generalizing base parent trail done directory with
  | zero =>
      refine Step.Leads.pure fun state between => ⟨[], rfl, ?_⟩
      rw [List.append_nil]
      exact between
  | succ levels ih =>
      rintro state ⟨inv, here⟩ result later run
      have still : state.arena.unmarked = base := guides.still here
      obtain ⟨entryName, listing, taken, entered, spells, fresh, rests⟩ :=
        above.entered plan.settings still (guides.found here stands)
      rw [Step.visit_entered entered] at run
      have explored := guides.explore done (fun name done base above below => by
        obtain ⟨inner, stands⟩ := below
        rw [← pathOf_concat]
        exact ih above stands) here stands taken spells
      exact explored { state with arena := state.arena.push listing }
        ⟨guides.moved _ inv, rfl, fresh, guides.touched here rests⟩ _ _ run

end Guides

end

section
variable {plan : Plan} {place : Location} {made filled : Location → Prop} {origin : FileSystem}
  {lists : List String → List String → Prop} {Inv : List (List String) → State → Prop}
  {base : Arena} {trail : List String} {done : List (List String)}

/-- What holds of the directories of a tree that have been visited, whichever snapshots there are, and
holds with one more when that has been written. -/
structure Accompanies (plan : Plan) (place : Location) (made filled : Location → Prop)
    (origin : FileSystem) (lists : List String → List String → Prop)
    (Inv : List (List String) → State → Prop) : Prop where
  moved {done : List (List String)} {state : State} (arena : Arena) :
    Inv done state → Inv done { state with arena }
  listed {files : FileSystem} {trail : List String} (parent : Option Nat)
    (entryName : Option String) (reworked : Reworked place made filled origin files)
    (found : origin.find (pathOf plan.root trail) = .ok (place ++ trail, .directory)) :
    lists trail ((listingOf files plan.settings parent entryName (pathOf plan.root trail)
      (place ++ trail)).directories.map Entry.name)
  pages (done : List (List String)) {files : FileSystem} {trail : List String} {base : Arena}
    {parent : Option Nat} {entryName : Option String} {listing : Snapshot}
    (reworked : Reworked place made filled origin files)
    (found : origin.find (pathOf plan.root trail) = .ok (place ++ trail, .directory))
    (taken : listing = listingOf files plan.settings parent entryName (pathOf plan.root trail)
      (place ++ trail))
    (spells : (base.push listing).Spells trail) :
    Step.Leads
      (fun state => Inv done state ∧ state.files = files ∧
        state.arena.unmarked = base.push listing ∧
        Working plan place made filled origin (some trail.length) (base.push listing) state)
      (fun _ => Inv (done ++ [trail])) (fun _ => True)
      (Step.writePages plan trail.length (pathOf plan.root trail) (wayOf trail)
        (newsSidecars files plan.settings (pathOf plan.root trail)))

/-- On the walk between two directories, when those that are `done` have been visited. -/
def Between (plan : Plan) (place : Location) (made filled : Location → Prop) (origin : FileSystem)
    (Inv : List (List String) → State → Prop) (base : Arena) (done : List (List String))
    (state : State) : Prop :=
  Inv done state ∧ Working plan place made filled origin none base state

/-- A stretch of the walk: the directories visited on it come behind those that are done. -/
abbrev Stretch (plan : Plan) (place : Location) (made filled : Location → Prop)
    (origin : FileSystem) (Inv : List (List String) → State → Prop) (base : Arena)
    (done : List (List String)) (Visits : List (List String) → Prop) (step : Step Unit) : Prop :=
  Step.Leads (Between plan place made filled origin Inv base done)
    (fun _ later => ∃ visited, Visits visited ∧
      Between plan place made filled origin Inv base (done ++ visited) later)
    (fun _ => False) step

section
variable (accompanies : Accompanies plan place made filled origin lists Inv)
  (ground : Ground plan place made filled origin)
include accompanies ground

/-- A build at work in a tree finds its way there. -/
theorem Accompanies.guides :
    Guides plan (Working plan place made filled origin)
      (fun trail directory => directory = place ++ trail ∧
        origin.find (pathOf plan.root trail) = .ok (place ++ trail, .directory))
      lists Inv (fun _ => False) where
  still working := working.still
  touched working same := working.touched same
  moved := accompanies.moved
  found working stands := stands.1 ▸ working.found stands.2
  below := by
    rintro base state trail _ parent entryName working ⟨rfl, found⟩ name within
    obtain ⟨_, entered, _⟩ := listingOf_leads (working.tree ground) (working.found found)
      (List.prefix_append _ _) within
    refine ⟨_, rfl, ?_⟩
    rw [pathOf_concat, ← List.append_assoc]
    exact find_extends working.reworked.narrowed entered
  listed := by
    rintro base state trail _ parent entryName working ⟨rfl, found⟩
    exact accompanies.listed parent entryName working.reworked found
  pages := by
    rintro done start trail _ base parent entryName listing working ⟨rfl, found⟩ taken spells
    have entered : Step.Leads
        (fun state => (Inv done state ∧ state.files = start.files ∧
          state.arena.unmarked = base.push listing) ∧
          Working plan place made filled origin (some trail.length) (base.push listing) state)
        (fun _ => Inv (done ++ [trail])) (fun _ => True) _ :=
      (accompanies.pages done working.reworked found taken spells).given
        fun _ before => ⟨before.1.1, before.1.2.1, before.1.2.2, before.2⟩
    refine ((entered.along (writePages_working ground spells.get?_last found (List.prefix_append _ _)
      (wayOf trail) _)).given fun _ before => ?_).leaves (fun _ _ after => ?_) fun _ => id
    · exact ⟨⟨before.1, before.2.1, before.2.2.1⟩, before.2.2.2⟩
    · exact ⟨⟨after.1, after.2.1⟩, after.2.2⟩

/-- The directories are visited from one on, and what has been written until then is left alone. -/
theorem visit_tours (levels : Nat) {parent : Option Nat} (above : Arena.Above base parent trail)
    (found : origin.find (pathOf plan.root trail) = .ok (place ++ trail, .directory)) :
    Stretch plan place made filled origin Inv base done (Toured lists levels trail)
      (Step.visit plan levels parent (pathOf plan.root trail)) :=
  (accompanies.guides ground).visit levels above ⟨rfl, found⟩

end
end

end SiteIndex.Build

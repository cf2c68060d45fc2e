import SiteIndex.Proofs.Build.Steps
import SiteIndex.Proofs.FileSystem.Reworked

/-!
One build at work. Whatever it does in a directory succeeds, and changes no files but those that it is
to write. The feeds that are open have theirs in the root, and of the snapshots only the marks change,
and the cursor of the directory.
-/

namespace SiteIndex.Build

open SiteIndex.Listing SiteIndex.FileSystem SiteIndex.Template

namespace Step

variable {α β : Type}

/-- From every state that `Before` holds of, a step that has a result leads to one that `After` holds of,
or, if it fails, `Broken`. -/
def Leads (Before : State → Prop) (After : α → State → Prop) (Broken : State → Prop)
    (step : Step α) : Prop :=
  ∀ state, Before state → ∀ result later, step state = some (result, later) →
    match result with
    | .ok value => After value later
    | .error _ => Broken later

section
variable {Before Before' Broken Broken' : State → Prop} {Between : α → State → Prop}
  {After After' : β → State → Prop}

theorem Leads.bind {step : Step α} {next : α → Step β} (first : Leads Before Between Broken step)
    (second : ∀ value, Leads (Between value) After Broken (next value)) :
    Leads Before After Broken (step >>= next) := by
  intro state before result later run
  obtain ⟨failure, failed, rfl⟩ | ⟨value, middle, passed, onward⟩ := bind_run run
  · exact first state before _ _ failed
  · exact second value middle (first state before _ _ passed) result later onward

theorem Leads.given {step : Step β} (leads : Leads Before After Broken step)
    (stronger : ∀ state, Before' state → Before state) : Leads Before' After Broken step :=
  fun state before => leads state (stronger state before)

theorem Leads.leaves {step : Step β} (leads : Leads Before After Broken step)
    (weaker : ∀ value state, After value state → After' value state)
    (weaker' : ∀ state, Broken state → Broken' state) : Leads Before After' Broken' step := by
  intro state before result later run
  have reached := leads state before result later run
  cases result with
  | ok value => exact weaker value later reached
  | error failure => exact weaker' later reached

/-- What does not fail does not fail badly. -/
theorem Leads.safely {step : Step β} (leads : Leads Before After (fun _ => False) step) :
    Leads Before After Broken step :=
  leads.leaves (fun _ _ => id) fun _ => False.elim

theorem Leads.and {step : Step β} (first : Leads Before After Broken step)
    (second : Leads Before After' Broken' step) :
    Leads Before (fun value state => After value state ∧ After' value state)
      (fun state => Broken state ∧ Broken' state) step := by
  intro state before result later run
  have reached := first state before result later run
  have reached' := second state before result later run
  cases result with
  | ok value => exact ⟨reached, reached'⟩
  | error failure => exact ⟨reached, reached'⟩

/-- What a step leads to where it is known not to fail. -/
theorem Leads.along {At : State → Prop} {At' : β → State → Prop} {step : Step β}
    (leads : Leads (fun state => Before state ∧ At state) After (fun _ => True) step)
    (keeps : Leads At At' (fun _ => False) step) :
    Leads (fun state => Before state ∧ At state)
      (fun value state => After value state ∧ At' value state) (fun _ => False) step :=
  (leads.and (keeps.given fun _ before => before.2)).leaves (fun _ _ => id) fun _ broken => broken.2

theorem Leads.anyway (step : Step β) : Leads Before (fun _ _ => True) (fun _ => True) step :=
  fun _ _ result _ _ => by cases result <;> trivial

theorem Leads.read {next : State → Step β}
    (each : ∀ state, Before state → Leads (· = state) After Broken (next state)) :
    Leads Before After Broken (get >>= next) := by
  intro state before result later run
  rw [get_apply] at run
  exact each state before state rfl result later run

theorem Leads.pure {value : β} (whole : ∀ state, Before state → After value state) :
    Leads Before After Broken (Pure.pure value) := by
  rintro state before _ _ ⟨⟩
  exact whole state before

theorem Leads.throw {failure : BuildError} (broken : ∀ state, Before state → Broken state) :
    Leads Before After Broken (MonadExcept.throw failure) := by
  rintro state before _ _ ⟨⟩
  exact broken state before

theorem Leads.modify {change : State → State} {Left : State → Prop}
    (changed : ∀ state, Before state → Left (change state)) :
    Leads Before (fun _ => Left) Broken
      (MonadState.modifyGet fun state => ((), change state)) := by
  rintro state before _ _ ⟨⟩
  exact changed state before

/-- What a step keeps it keeps as well where it is done to a divided feed alone. -/
theorem Leads.ifDivided {kind : FeedKind} {step : Step Unit}
    (keeps : Leads Before (fun _ => Before) Broken step) :
    Leads Before (fun _ => Before) Broken (Step.ifDivided kind step) := by
  refine Leads.read fun state before => ?_
  have here : ∀ later, later = state → Before later := fun _ same => same ▸ before
  split
  · split
    · exact keeps.given here
    · exact Leads.pure here
  · exact Leads.pure here

section
variable {plan : Plan}

theorem Leads.writeHead {kind : FeedKind}
    (keeps : Leads Before (fun _ => Before) Broken (expandFeed plan kind none none false)) :
    Leads Before (fun _ => Before) Broken (Step.writeHead plan kind) := by
  rw [writeHead_eq]
  exact keeps.ifDivided

theorem Leads.finishFeed {kind : FeedKind} {Sealed : Unit → State → Prop}
    (keeps : ∀ suppressed,
      Leads Before (fun _ => Before) Broken (expandFeed plan kind none none suppressed))
    (seals : Leads Before Sealed Broken (sealFeed kind)) :
    Leads Before Sealed Broken (Step.finishFeed plan kind) := by
  rw [finishFeed_eq]
  exact (Leads.ifDivided ((keeps true).bind fun _ => keeps false)).bind fun _ => seals

theorem Leads.announceAll {id : Nat} {path way : String} (sidecars : List String)
    (keeps : ∀ sidecar, Leads Before (fun _ => Before) Broken (announce plan id path way sidecar)) :
    Leads Before (fun _ => Before) Broken (Step.announceAll plan id path way sidecars) := by
  induction sidecars with
  | nil => exact Leads.pure fun _ before => before
  | cons sidecar rest ih => exact (keeps sidecar).bind fun _ => ih

end

end
end Step

/-- What the template of a feed is called. -/
def FeedKind.templateIn (names : TemplateNames) : FeedKind → String
  | .sitemap => names.sitemap
  | .newsfeed => names.newsfeed

/-- What the file of a feed is called. -/
def FeedKind.outputIn (names : OutputNames) : FeedKind → String
  | .sitemap => names.sitemap
  | .newsfeed => names.newsfeed

/-- Where the file of a feed lies. -/
def Plan.output (plan : Plan) (place : Location) (kind : FeedKind) : Location :=
  place ++ [kind.outputIn plan.settings.outputs]

/-- The tree that a build starts from, and what it may write there. -/
structure Ground (plan : Plan) (place : Location) (made filled : Location → Prop)
    (origin : FileSystem) : Prop where
  tree : origin.IsTree place
  rooted : origin.find plan.root = .ok (place, .directory)
  indexName : Path.IsName plan.settings.outputs.index
  index : ∀ directory, place <+: directory → made (directory ++ [plan.settings.outputs.index])
  feed : ∀ kind, made (plan.output place kind) ∨ filled (plan.output place kind)

/-- The file of an open feed lies in the root. -/
structure Attached (plan : Plan) (place : Location) (kind : FeedKind) (files : FileSystem)
    (feed : Feed) : Prop where
  lies : feed.out.file.location = plan.output place kind
  opened : ∃ content, files.node? feed.out.file.location = some (.file content)

/-- The files are those that the build has started from, with what it has written, and the snapshots
those of `base` but for their marks and the cursor in `spot`. -/
structure Working (plan : Plan) (place : Location) (made filled : Location → Prop)
    (origin : FileSystem) (spot : Option Nat) (base : Arena) (state : State) : Prop where
  reworked : Reworked place made filled origin state.files
  feeds : ∀ kind feed, state.feed? kind = some feed → Attached plan place kind state.files feed
  still : state.arena.still spot = base

section
variable {plan : Plan} {place : Location} {made filled : Location → Prop} {origin : FileSystem}
  {spot : Option Nat} {base : Arena} {state : State} {kind : FeedKind} {feed : Feed}

theorem Attached.kept (attached : Attached plan place kind state.files feed) {files : FileSystem}
    (stay : ∀ content, state.files.node? feed.out.file.location = some (.file content) →
      ∃ content, files.node? feed.out.file.location = some (.file content)) :
    Attached plan place kind files feed :=
  ⟨attached.lies, attached.opened.elim stay⟩

namespace Working

variable (working : Working plan place made filled origin spot base state)
include working

theorem tree (ground : Ground plan place made filled origin) : state.files.IsTree place :=
  working.reworked.tree ground.tree

/-- Directories are found where they were found before. -/
theorem found {path : String} {location : Location}
    (found : origin.find path = .ok (location, .directory)) :
    state.files.find path = .ok (location, .directory) :=
  find_extends working.reworked.extended found

/-- Only the files count, the feeds and the snapshots. -/
theorem touched {arena : Arena} {index : Option Template} {report : Report} {spot' : Option Nat}
    {base' : Arena} (still : arena.still spot' = base') :
    Working plan place made filled origin spot' base' { state with arena, index, report } :=
  ⟨working.reworked, fun kind feed opened => working.feeds kind feed (by cases kind <;> exact opened),
    still⟩

/-- The way to a directory is told. -/
theorem told (id : Nat) : Working plan place made filled origin spot base
    { state with arena := (state.arena.pathString id).2 } :=
  working.touched ((state.arena.still_pathString id spot).trans working.still)

theorem worked {files : FileSystem} (reworked : Reworked place made filled state.files files) :
    Working plan place made filled origin spot base { state with files } where
  reworked := working.reworked.trans reworked
  feeds kind feed opened :=
    (working.feeds kind feed (by cases kind <;> exact opened)).kept fun _ => reworked.isFile
  still := working.still

theorem setFeed (kind : FeedKind) (next : Option Feed)
    (attached : ∀ feed, next = some feed → Attached plan place kind state.files feed) :
    Working plan place made filled origin spot base (state.setFeed kind next) where
  reworked := by simpa using working.reworked
  feeds other feed opened := by
    rw [State.feed?_setFeed] at opened
    rw [State.setFeed_files]
    split at opened
    · next same =>
      subst same
      exact attached feed opened
    · exact working.feeds other feed opened
  still := by simpa using working.still

/-- An expansion into the file of a feed. -/
theorem fed (ground : Ground plan place made filled origin) (opened : state.feed? kind = some feed)
    {context : Context} (here : context.directory = spot) {after : Template}
    {scene : Scene FileWriter}
    (leaves : Scene.Leaves context feed.out.file.location ⟨state.arena, 0, ⟨state.files, feed.out⟩⟩
      scene) :
    Working plan place made filled origin spot base (state.fed kind feed after scene) := by
  have attached := working.feeds kind feed opened
  obtain ⟨content, holds⟩ := attached.opened
  obtain ⟨later, rewritten⟩ := leaves.rewritten
  have reworked : Reworked place made filled state.files scene.out.files :=
    .of_rewritten rewritten holds (attached.lies ▸ ground.feed kind)
  have expanded : Working plan place made filled origin spot base
      (state.expanded feed.templateName after scene) :=
    (working.worked reworked).touched (here ▸ leaves.still.trans (here ▸ working.still))
  refine expanded.setFeed kind _ fun later same => ?_
  cases same
  exact ⟨leaves.stays.trans attached.lies, ⟨_, by rw [leaves.stays]; exact rewritten.holds⟩⟩

end Working

/-- At work before and after, and without failure. -/
abbrev Keeps (plan : Plan) (place : Location) (made filled : Location → Prop) (origin : FileSystem)
    (spot : Option Nat) (base : Arena) {α : Type} (step : Step α) : Prop :=
  Step.Leads (Working plan place made filled origin spot base)
    (fun _ => Working plan place made filled origin spot base) (fun _ => False) step

section
variable (ground : Ground plan place made filled origin)
include ground

theorem expandFeed_working (kind : FeedKind) (spot : Option Nat) (news : Option News.Item)
    (suppressed : Bool) :
    Keeps plan place made filled origin spot base
      (Step.expandFeed plan kind spot news suppressed) := by
  intro state working result later run
  cases opened : state.feed? kind with
  | none =>
      rw [Step.expandFeed_closed opened] at run
      cases run
      exact working
  | some feed =>
      obtain ⟨content, holds⟩ := (working.feeds kind feed opened).opened
      obtain ⟨ending, after, scene, ended, rfl, rfl⟩ := Step.expandFeed_ok opened holds run
      exact working.fed ground opened rfl (expand_leaves holds ended).2

theorem writeBody_working (kind : FeedKind) (id : Nat) (news : Option News.Item) :
    Keeps plan place made filled origin (some id) base (Step.writeBody plan kind id news) := by
  refine (expandFeed_working ground kind (some id) news false).bind fun _ => ?_
  refine Step.Leads.modify fun state working => working.setFeed kind _ fun feed same => ?_
  obtain ⟨before, opened, rfl⟩ := Option.map_eq_some_iff.mp same
  exact ⟨(working.feeds kind before opened).lies, (working.feeds kind before opened).opened⟩

/-- What writing the index of a directory changes: the file of the index, the cursor of the directory,
and the diagnostics. -/
structure Indexed (plan : Plan) (place : Location) (id : Nat) (directory : Location)
    (before later : State) : Prop where
  reworked : Reworked place (· = directory ++ [plan.settings.outputs.index]) (fun _ => False)
    before.files later.files
  feeds : ∀ kind, later.feed? kind = before.feed? kind
  still : later.arena.still (some id) = before.arena.still (some id)
  report : ∃ diagnostics,
    later.report = before.report.addDiagnostics plan.settings.templates.index diagnostics

omit ground in
theorem Indexed.refl (plan : Plan) (place : Location) (id : Nat) (directory : Location)
    (state : State) : Indexed plan place id directory state state :=
  ⟨.refl _ _ _ _, fun _ => rfl, rfl, #[], rfl⟩

/-- What writing the index of a directory comes to: it is passed over, or the template is expanded into
the file of the directory, which is made for it or emptied. -/
inductive WritesIndex (plan : Plan) (id : Nat) (directory : Location) (state : State) :
    Except BuildError Bool → State → Prop
  | passedOver : WritesIndex plan id directory state (.ok false) state
  | written {template : Template} {ending : Ending} {after : Template} {scene : Scene FileWriter}
      {content : ByteArray} {files : FileSystem}
      (opened : state.index = some template) (named : IsEntryName plan.settings.outputs.index)
      (vacant : state.files.node? (directory ++ [plan.settings.outputs.index]) ≠ some .directory)
      (ended : template.rewind.expand
        (sceneHost FileWriter.sink (plan.context (some id) none)) plan.fuel false
        ⟨state.arena, 0, ⟨state.files.put (directory ++ [plan.settings.outputs.index]) (.file .empty),
          .ofFile ⟨directory ++ [plan.settings.outputs.index], 0⟩⟩⟩ = some (.ok ending, after, scene))
      (rewritten : Rewritten (directory ++ [plan.settings.outputs.index]) content
        (state.files.put (directory ++ [plan.settings.outputs.index]) (.file .empty)) files) :
      WritesIndex plan id directory state (.ok true)
        (state.indexed plan.settings.templates.index after scene files)

theorem Working.writesIndex (working : Working plan place made filled origin spot base state) {id : Nat}
    {path : String} {directory : Location}
    (found : origin.find path = .ok (directory, .directory)) (below : place <+: directory)
    {result : Except BuildError Bool} {later : State}
    (run : Step.writeIndex plan id path state = some (result, later)) :
    WritesIndex plan id directory state result later := by
  obtain ⟨rfl, rfl⟩ | ⟨template, created, opened, success⟩ := Step.writeIndex_cases run
  · exact .passedOver
  · obtain ⟨entryName, rfl, vacant⟩ :=
      (working.tree ground).create_name (working.found found) below ground.indexName success
    obtain ⟨ending, after, scene, written, content, ended, rfl, rewritten, rfl⟩ :=
      Step.writeIndex_run opened success (node?_putEntry ..) run
    exact .written opened entryName vacant ended rewritten

/-- The index of a directory is written, unless its file cannot be created. -/
theorem Working.indexed (working : Working plan place made filled origin spot base state) {id : Nat}
    {path : String} {directory : Location}
    (found : origin.find path = .ok (directory, .directory)) (below : place <+: directory)
    {result : Except BuildError Bool} {later : State}
    (run : Step.writeIndex plan id path state = some (result, later)) :
    (∃ written, result = .ok written) ∧ Indexed plan place id directory state later := by
  cases working.writesIndex ground found below run with
  | passedOver => exact ⟨⟨_, rfl⟩, .refl ..⟩
  | written opened named vacant ended rewritten =>
      have created : Reworked place (· = directory ++ [plan.settings.outputs.index])
          (fun _ => False) state.files _ := .of_created (working.tree ground) below named vacant rfl
      have holds := node?_putEntry state.files directory plan.settings.outputs.index (.file .empty)
      refine ⟨⟨_, rfl⟩, created.trans (.of_rewritten rewritten holds (.inl rfl)), fun kind => ?_,
        (expand_leaves holds ended).2.still, _, rfl⟩
      cases kind <;> rfl

theorem writeIndex_working (id : Nat) {path : String} {directory : Location}
    (found : origin.find path = .ok (directory, .directory)) (below : place <+: directory) :
    Keeps plan place made filled origin (some id) base (Step.writeIndex plan id path) := by
  intro state working result later run
  obtain ⟨⟨written, rfl⟩, indexed⟩ := working.indexed ground found below run
  have reworked : Reworked place made filled state.files later.files :=
    indexed.reworked.mono (fun _ here => here ▸ ground.index directory below) fun _ => False.elim
  exact ⟨working.reworked.trans reworked, fun kind feed opened =>
    (working.feeds kind feed (indexed.feeds kind ▸ opened)).kept fun _ => reworked.isFile,
    indexed.still.trans working.still⟩

theorem announce_working (id : Nat) (path way sidecar : String) :
    Keeps plan place made filled origin (some id) base
      (Step.announce plan id path way sidecar) := by
  refine Step.Leads.read fun state working => ?_
  split
  · exact Step.Leads.pure fun _ same => same ▸ working
  · refine Step.Leads.bind (Step.Leads.modify fun _ same => ?_) fun _ =>
      writeBody_working ground .newsfeed id _
    subst same
    exact working.touched working.still

theorem announceAll_working (id : Nat) (path way : String) (sidecars : List String) :
    Keeps plan place made filled origin (some id) base
      (Step.announceAll plan id path way sidecars) :=
  .announceAll sidecars (announce_working ground id path way)

omit ground in
/-- With its cursor set back, the snapshot of a directory is what it was when it was entered. -/
theorem noteDirectory_apply {id : Nat} {listing : Snapshot} (still : state.arena.still (some id) = base)
    (seen : base.get? id = some listing) (path way : String) (index : Bool) :
    Step.noteDirectory id path way index state = some (.ok listing.entries.length,
      { state with
        arena := state.arena.resetCursor id
        report := { state.report with
          directories := state.report.directories.push
            ⟨way, listing.directories.length, listing.files.length, index⟩ } }) := by
  obtain ⟨snapshot, found, rfl⟩ := Arena.seen_of_still still seen
  unfold Step.noteDirectory
  rw [Step.get_apply, found]
  rfl

omit ground in
theorem noteDirectory_working {id : Nat} {listing : Snapshot} (seen : base.get? id = some listing)
    (path way : String) (index : Bool) :
    Step.Leads (Working plan place made filled origin (some id) base)
      (fun count later => Working plan place made filled origin none base later ∧
        count = listing.entries.length)
      (fun _ => False) (Step.noteDirectory id path way index) := by
  intro state working result later run
  rw [noteDirectory_apply working.still seen] at run
  cases run
  exact ⟨working.touched ((state.arena.unmarked_resetCursor id).trans working.still), rfl⟩

theorem writePages_working {id : Nat} {listing : Snapshot} (seen : base.get? id = some listing)
    {path : String} {directory : Location}
    (found : origin.find path = .ok (directory, .directory)) (below : place <+: directory)
    (way : String) (sidecars : List String) :
    Step.Leads (Working plan place made filled origin (some id) base)
      (fun count later => Working plan place made filled origin none base later ∧
        count = listing.entries.length)
      (fun _ => False) (Step.writePages plan id path way sidecars) :=
  (announceAll_working ground id path way sidecars).bind fun _ =>
    (writeIndex_working ground id found below).bind fun _ =>
      (writeBody_working ground .sitemap id none).bind fun _ =>
        noteDirectory_working seen path way _

end

end

end SiteIndex.Build

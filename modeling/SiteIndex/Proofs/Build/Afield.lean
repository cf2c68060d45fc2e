import SiteIndex.Proofs.Build.Tour
import SiteIndex.Proofs.Template.OpenedScenes

/-!
A build at work wherever its paths lead. A feed need not lie in the root, nor the index of a directory
in the directory, for there may be links under their names; and two paths may lead to the same file. But
each path goes on to lead where it has led, and what is not written to stays as it is.
-/

namespace SiteIndex.Build

open SiteIndex.Listing SiteIndex.FileSystem SiteIndex.Template

/-- Where a feed is to be found. -/
def Plan.outputPath (plan : Plan) (kind : FeedKind) : String :=
  Path.join plan.root (kind.outputIn plan.settings.outputs)

/-- Where the index of a directory is to be found. -/
def Plan.indexPath (plan : Plan) (trail : List String) : String :=
  Path.join (pathOf plan.root trail) plan.settings.outputs.index

/-- The files are those that the build has started from, with what it has written, each open feed is
where its path leads to, and the snapshots are those of `base` but for their marks and the cursor in
`spot`. -/
structure Afield (plan : Plan) (origin : FileSystem) (spot : Option Nat) (base : Arena)
    (state : State) : Prop where
  grown : origin.Grown state.files
  feeds : ∀ kind feed, state.feed? kind = some feed → feed.path = plan.outputPath kind ∧
    state.files.Opens (plan.outputPath kind) feed.out.file.location
  outputs : ∀ path ∈ state.report.outputs, ∃ kind, path = plan.outputPath kind
  still : state.arena.still spot = base

/-- A build that starts on the files as they are. -/
theorem Afield.start (plan : Plan) (files : FileSystem) :
    Afield plan files none .empty (State.start files) where
  grown := .refl files
  feeds kind _ opened := by cases kind <;> cases opened
  outputs _ done := by simp [State.start, Report.empty] at done
  still := rfl

/-- The path of a feed that is open, or has been written, leads to this location. -/
def State.FeedsAt (plan : Plan) (state : State) (location : Location) : Prop :=
  ∃ kind, ((state.feed? kind).isSome ∨ plan.outputPath kind ∈ state.report.outputs) ∧
    state.files.Opens (plan.outputPath kind) location

/-- What a step does for the feeds and for nothing else. -/
structure Feeding (plan : Plan) (state later : State) : Prop where
  grown : state.files.Grown later.files
  fed : ∀ location, state.FeedsAt plan location → later.FeedsAt plan location
  shown : ∀ location, ¬ later.FeedsAt plan location →
    later.files.node? location = state.files.node? location
  closed : ∀ kind, state.feed? kind = none → later.feed? kind = none
  index : later.index = state.index
  directories : later.report.directories = state.report.directories

section
variable {plan : Plan} {origin : FileSystem} {spot : Option Nat} {base : Arena}
  {start state later : State} {kind : FeedKind} {feed : Feed}

theorem State.FeedsAt.mono {location : Location} (fed : state.FeedsAt plan location)
    (grown : state.files.Grown later.files)
    (opened : ∀ kind, (state.feed? kind).isSome →
      (later.feed? kind).isSome ∨ plan.outputPath kind ∈ later.report.outputs)
    (written : ∀ path ∈ state.report.outputs, path ∈ later.report.outputs) :
    later.FeedsAt plan location := by
  obtain ⟨kind, used, opens⟩ := fed
  exact ⟨kind, used.elim (opened kind) fun done => .inr (written _ done), opens.grown grown⟩

namespace Feeding

theorem refl (plan : Plan) (state : State) : Feeding plan state state :=
  ⟨.refl _, fun _ fed => fed, fun _ _ => rfl, fun _ closed => closed, rfl, rfl⟩

theorem trans (early : Feeding plan start state) (late : Feeding plan state later) :
    Feeding plan start later where
  grown := early.grown.trans late.grown
  fed location fed := late.fed location (early.fed location fed)
  shown location unfed := (late.shown location unfed).trans
    (early.shown location fun fed => unfed (late.fed location fed))
  closed kind closed := late.closed kind (early.closed kind closed)
  index := late.index.trans early.index
  directories := late.directories.trans early.directories

/-- Where no feed lies, nothing has changed; the same feeds are open, and have been written. -/
theorem of_kept (grown : state.files.Grown later.files)
    (feeds : ∀ kind, (later.feed? kind).isSome = (state.feed? kind).isSome)
    (index : later.index = state.index)
    (directories : later.report.directories = state.report.directories)
    (outputs : later.report.outputs = state.report.outputs)
    (shown : ∀ location, ¬ state.FeedsAt plan location →
      later.files.node? location = state.files.node? location) : Feeding plan state later := by
  have fed (location : Location) (fed : state.FeedsAt plan location) :
      later.FeedsAt plan location :=
    fed.mono grown (fun kind opened => .inl (feeds kind ▸ opened)) fun _ done => outputs ▸ done
  refine ⟨grown, fed, fun location unfed => shown location fun here => unfed (fed location here),
    fun kind closed => ?_, index, directories⟩
  rw [← Option.not_isSome_iff_eq_none] at closed ⊢
  rw [feeds]
  exact closed

end Feeding

namespace Afield

variable (afield : Afield plan origin spot base state)
include afield

/-- Directories are found where they were found before. -/
theorem found {path : String} {location : Location}
    (found : origin.find path = .ok (location, .directory)) :
    state.files.find path = .ok (location, .directory) :=
  find_extends afield.grown.extended found

theorem touched {arena : Arena} {index : Option Template} {report : Report} {spot' : Option Nat}
    {base' : Arena} (still : arena.still spot' = base')
    (outputs : report.outputs = state.report.outputs) :
    Afield plan origin spot' base' { state with arena, index, report } :=
  ⟨afield.grown, fun kind feed opened => afield.feeds kind feed (by cases kind <;> exact opened),
    fun path done => afield.outputs path (outputs ▸ done), still⟩

theorem worked {files : FileSystem} (grown : state.files.Grown files) :
    Afield plan origin spot base { state with files } where
  grown := afield.grown.trans grown
  feeds kind feed opened := by
    obtain ⟨path, opens⟩ := afield.feeds kind feed (by cases kind <;> exact opened)
    exact ⟨path, opens.grown grown⟩
  outputs := afield.outputs
  still := afield.still

theorem setFeed (kind : FeedKind) (next : Option Feed)
    (attached : ∀ feed, next = some feed → feed.path = plan.outputPath kind ∧
      state.files.Opens (plan.outputPath kind) feed.out.file.location) :
    Afield plan origin spot base (state.setFeed kind next) where
  grown := by simpa using afield.grown
  feeds other feed opened := by
    rw [State.feed?_setFeed] at opened
    rw [State.setFeed_files]
    split at opened
    · next same =>
      subst same
      exact attached feed opened
    · exact afield.feeds other feed opened
  outputs := by simpa using afield.outputs
  still := by simpa using afield.still

/-- An expansion that leaves files behind and the snapshots. -/
theorem expanded {name : String} {after : Template} {scene : Scene FileWriter} {spot' : Option Nat}
    {base' : Arena} (grown : state.files.Grown scene.out.files)
    (still : scene.arena.still spot' = base') :
    Afield plan origin spot' base' (state.expanded name after scene) :=
  (afield.worked grown).touched still
    (Report.frame_of_shown (state.report.shown_addDiagnostics name after.diagnostics)).2.2

end Afield

end

end SiteIndex.Build

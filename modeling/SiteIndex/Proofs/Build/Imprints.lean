import SiteIndex.Proofs.Build.Afield
import SiteIndex.Proofs.Build.Sparing
import SiteIndex.Proofs.Template.Handing

/-!
The indexes that a build has written, in their order. Each is expanded for its own directory, with the
way to it and its depth, into the file that its path leads to. Where several paths lead to one file, the
last of the indexes stands there in the end, unless a feed lies there as well.
-/

namespace SiteIndex.Build

open SiteIndex.Listing SiteIndex.FileSystem SiteIndex.Template

/-- An index that has been written: the names that lead to its directory, where its file lies, from what
it has been expanded and on which level of the template, and what then stood there. -/
structure Imprint where
  trail : List String
  location : Location
  before : Scene FileWriter
  depth : Nat
  node : Node

/-- A level on which the index template may be left. Writes to a file do not fail, so it is the
outermost if there is no device. -/
def Leaves (origin : FileSystem) (depth : Nat) : Prop :=
  depth = 0 ∨ ∃ location, origin.node? location = some .fullDevice

/-- The text of the index template has been expanded for the directory, as that is reached by its trail,
into a file that has been created by its path. -/
structure Imprint.Made (plan : Plan) (origin : FileSystem) (source : String) (imprint : Imprint) :
    Prop where
  found : origin.Grown imprint.before.out.files
  created : ∃ earlier : FileSystem, earlier.create (plan.indexPath imprint.trail) =
    .ok (imprint.before.out.files, ⟨imprint.location, 0⟩)
  opened : imprint.before.out.out = .ofFile ⟨imprint.location, 0⟩
  steps : imprint.before.rootSteps = 0
  way : (imprint.before.arena.pathString imprint.trail.length).1 = wayOf imprint.trail
  levels : imprint.before.arena.levelsBelowRoot imprint.trail.length = imprint.trail.length
  level : Leaves origin imprint.depth
  written : ∃ ending after later,
    (leftOn source .bodyOnly imprint.depth).expand
        (sceneHost FileWriter.sink (plan.context (some imprint.trail.length) none)) plan.fuel false
        imprint.before = some (.ok ending, after, later) ∧
      (later.out.out.flush later.out.files).1.isOk = true ∧
      (later.out.out.flush later.out.files).2.1.node? imprint.location = some imprint.node

/-- The last of the indexes that have been written to the file at `location`. -/
def lastAt (imprints : List Imprint) (location : Location) : Option Imprint :=
  imprints.reverse.find? fun imprint => imprint.location = location

theorem lastAt_concat (imprints : List Imprint) (imprint : Imprint) (location : Location) :
    lastAt (imprints ++ [imprint]) location =
      if imprint.location = location then some imprint else lastAt imprints location := by
  simp only [lastAt, List.reverse_append, List.reverse_singleton, List.singleton_append, List.find?_cons]
  by_cases here : imprint.location = location <;> simp [here]

/-- The index template can be expanded from its start. -/
def Rewinds (origin : FileSystem) (source : String) (template : Template) : Prop :=
  ∃ depth, template.rewind = leftOn source .bodyOnly depth ∧ Leaves origin depth

/-- What stands at the files of the indexes that have been written, when these directories are in the
report. -/
structure Imprinted (plan : Plan) (origin : FileSystem) (source : Option String)
    (imprints : List Imprint) (directories : Array DirectoryReport) (state : State) : Prop where
  index : Option.Rel (Rewinds origin) source state.index
  directories : state.report.directories = directories
  leads : ∀ imprint ∈ imprints,
    state.files.Opens (plan.indexPath imprint.trail) imprint.location
  last : ∀ location imprint, lastAt imprints location = some imprint →
    ¬ state.FeedsAt plan location → state.files.node? location = some imprint.node

section
variable {plan : Plan} {origin : FileSystem} {spot : Option Nat} {base : Arena}
  {source : Option String} {imprints : List Imprint} {directories : Array DirectoryReport}
  {state later : State} {trail : List String}

namespace Imprinted

variable (imprinted : Imprinted plan origin source imprints directories state)
include imprinted

/-- What is done for the feeds leaves alone what lies apart from them. -/
theorem fed (feeding : Feeding plan state later) :
    Imprinted plan origin source imprints directories later where
  index := feeding.index ▸ imprinted.index
  directories := feeding.directories.trans imprinted.directories
  leads imprint within := (imprinted.leads imprint within).grown feeding.grown
  last location imprint last unfed := by
    rw [feeding.shown location unfed]
    exact imprinted.last location imprint last fun fed => unfed (feeding.fed location fed)

variable (grown : state.files.Grown later.files)
  (index : Option.Rel (Rewinds origin) source later.index)
  (same : later.report.directories = state.report.directories)
  (fed : ∀ location, state.FeedsAt plan location → later.FeedsAt plan location)
include grown index same fed

/-- Where nothing has been written, all stands as before. -/
theorem kept (nodes : ∀ location, later.files.node? location = state.files.node? location) :
    Imprinted plan origin source imprints directories later where
  index := index
  directories := same.trans imprinted.directories
  leads imprint within := (imprinted.leads imprint within).grown grown
  last location imprint last unfed := by
    rw [nodes]
    exact imprinted.last location imprint last fun here => unfed (fed location here)

/-- One more index has been written. -/
theorem concat {imprint : Imprint}
    (opens : later.files.Opens (plan.indexPath imprint.trail) imprint.location)
    (stands : later.files.node? imprint.location = some imprint.node)
    (others : ∀ location, location ≠ imprint.location →
      later.files.node? location = state.files.node? location) :
    Imprinted plan origin source (imprints ++ [imprint]) directories later where
  index := index
  directories := same.trans imprinted.directories
  leads other within := by
    rcases List.mem_append.mp within with within | within
    · exact (imprinted.leads other within).grown grown
    · exact List.mem_singleton.mp within ▸ opens
  last location other last unfed := by
    rw [lastAt_concat] at last
    split at last
    · next here =>
      cases last
      exact here ▸ stands
    · next apart =>
      rw [others location (Ne.symm apart)]
      exact imprinted.last location other last fun here => unfed (fed location here)

end Imprinted

theorem Afield.indexed (afield : Afield plan origin spot base state) {name : String}
    {after : Template} {scene : Scene FileWriter} {files : FileSystem}
    (grown : state.files.Grown files)
    (still : scene.arena.still spot = state.arena.still spot) :
    Afield plan origin spot base (state.indexed name after scene files) ∧
      (state.indexed name after scene files).report.directories = state.report.directories ∧
      ∀ location, state.FeedsAt plan location →
        (state.indexed name after scene files).FeedsAt plan location := by
  obtain ⟨directories, _, outputs⟩ :=
    Report.frame_of_shown (state.report.shown_addDiagnostics name after.diagnostics)
  refine ⟨(afield.worked grown).touched (still.trans afield.still) outputs, directories,
    fun location fed => fed.mono grown (fun kind opened => .inl ?_) fun _ done => ?_⟩
  · cases kind <;> exact opened
  · exact outputs.symm ▸ done

/-- The index that has been written for a directory, if it has been written. -/
def Printed (plan : Plan) (origin : FileSystem) (source : Option String) (trail : List String)
    (index : Bool) (imprint : Option Imprint) : Prop :=
  imprint.isSome = index ∧ ∀ made ∈ imprint, made.trail = trail ∧
    ∃ text, source = some text ∧ made.Made plan origin text

theorem Printed.none (plan : Plan) (origin : FileSystem) (source : Option String)
    (trail : List String) : Printed plan origin source trail false none :=
  ⟨rfl, by simp⟩

/-- No index has been written. -/
theorem Imprinted.unprinted (imprinted : Imprinted plan origin source imprints directories state)
    (trail : List String) :
    ∃ imprint, Printed plan origin source trail false imprint ∧
      Imprinted plan origin source (imprints ++ imprint.toList) directories state := by
  refine ⟨none, .none .., ?_⟩
  rw [Option.toList_none, List.append_nil]
  exact imprinted

section
variable {files : FileSystem} {location : Location} {node : Node} {text : String}
  {depth depth' : Nat} {after : Template} {scene : Scene FileWriter} {name : String}
  (afield : Afield plan origin (some trail.length) base state)
  (imprinted : Imprinted plan origin (some text) imprints directories state)
  (creates : Creates (plan.indexPath trail) location state.files files)
  (again : after.restored = leftOn text .bodyOnly depth')
include afield imprinted creates again

/-- Where an index could not be written there is a device, and nothing has been written. -/
theorem Imprinted.failed
    (spares : Scene.Spares (plan.context (some trail.length) none) location
      ⟨state.arena, 0, ⟨files, .ofFile ⟨location, 0⟩⟩⟩ scene)
    (device : files.node? location = some .fullDevice) :
    Afield plan origin (some trail.length) base (state.indexed name after scene files) ∧
      ∃ imprint, Printed plan origin (some text) trail false imprint ∧
        Imprinted plan origin (some text) (imprints ++ imprint.toList) directories
          (state.indexed name after scene files) := by
  obtain ⟨onward, same, fed⟩ := afield.indexed creates.grown spares.still
  have level : Leaves origin depth' :=
    .inr ⟨location, (afield.grown.trans creates.grown).device device⟩
  exact ⟨onward, (imprinted.kept creates.grown (.some ⟨depth', again, level⟩) same fed fun other =>
    congrArg (·.node? other) (creates.device device)).unprinted trail⟩

/-- An index that has been written is the last in its file. -/
theorem Imprinted.printed (spells : base.Spells trail)
    (success : state.files.create (plan.indexPath trail) = .ok (files, ⟨location, 0⟩))
    (stands : files.node? location = some node) (writable : node.Writable)
    (level : Leaves origin depth) (level' : Leaves origin depth') {ending : Ending}
    (ended : (leftOn text .bodyOnly depth).expand
        (sceneHost FileWriter.sink (plan.context (some trail.length) none)) plan.fuel false
        ⟨state.arena, 0, ⟨files, .ofFile ⟨location, 0⟩⟩⟩ = some (.ok ending, after, scene))
    (passed : (scene.out.out.flush scene.out.files).1.isOk = true) :
    Afield plan origin (some trail.length) base
        (state.indexed name after scene (scene.out.out.flush scene.out.files).2.1) ∧
      ∃ imprint, Printed plan origin (some text) trail true imprint ∧
        Imprinted plan origin (some text) (imprints ++ imprint.toList) directories
          (state.indexed name after scene (scene.out.out.flush scene.out.files).2.1) := by
  have spares : Scene.Spares (plan.context (some trail.length) none) location
      ⟨state.arena, 0, ⟨files, .ofFile ⟨location, 0⟩⟩⟩ scene := expand_spares stands writable ended
  obtain ⟨node', stands', writable'⟩ := (Grown.of_alike spares.alike).writable stands writable
  have alike := BufferedFile.flush_alike (spares.stays.symm ▸ stands') writable'
  rw [spares.stays] at alike
  obtain ⟨node'', stands'', _⟩ := (Grown.of_alike alike).writable stands' writable'
  have grown := (Grown.of_alike spares.alike).trans (.of_alike alike)
  obtain ⟨onward, same, fed⟩ := afield.indexed (creates.grown.trans grown) spares.still
  have spells : state.arena.Spells trail := spells.of_still afield.still
  refine ⟨onward, some ⟨trail, location, ⟨state.arena, 0, ⟨files, .ofFile ⟨location, 0⟩⟩⟩,
    depth, node''⟩, ⟨rfl, ?_⟩, ?_⟩
  · rintro _ ⟨⟩
    exact ⟨rfl, text, rfl, {
      found := afield.grown.trans creates.grown
      created := ⟨state.files, success⟩
      opened := rfl
      steps := rfl
      way := spells.pathString
      levels := spells.levelsBelowRoot
      level
      written := ⟨ending, after, scene, ended, passed, stands''⟩ }⟩
  · refine imprinted.concat (creates.grown.trans grown) (.some ⟨depth', again, level'⟩) same fed
      (creates.opens.grown grown) stands'' fun other apart => ?_
    rw [← creates.others other apart, spares.alike.shown other apart]
    exact (alike.shown other apart).symm

end

end

end SiteIndex.Build

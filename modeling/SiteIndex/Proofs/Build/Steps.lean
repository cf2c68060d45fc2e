import SiteIndex.Build.Walk
import SiteIndex.Proofs.Listing.Entering
import SiteIndex.Proofs.Template.FileScenes

/-!
Two builds step by step. Steps that are put one behind the other keep two builds alike if each of them
does, and what an expansion makes of the state is said once, for all that expand a template.
-/

namespace SiteIndex.Build

open SiteIndex.Listing SiteIndex.FileSystem

namespace Step

variable {α α' β β' : Type}

theorem bind_apply (step : Step α) (next : α → Step β) (state : State) :
    (step >>= next) state =
      match step state with
      | none => none
      | some (.ok value, later) => next value later
      | some (.error failure, later) => some (.error failure, later) := by
  change Option.bind (step state) _ = _
  rcases step state with _ | ⟨failure | value, later⟩ <;> rfl

/-- Two steps come to what the first fails with, or to what the second comes to behind it. -/
theorem bind_run {step : Step α} {next : α → Step β} {state later : State}
    {result : Except BuildError β} (run : (step >>= next) state = some (result, later)) :
    (∃ failure, step state = some (.error failure, later) ∧ result = .error failure) ∨
      ∃ value between, step state = some (.ok value, between) ∧
        next value between = some (result, later) := by
  rw [bind_apply] at run
  split at run
  · cases run
  · next value between first => exact .inr ⟨value, between, first, run⟩
  · next failure between first =>
    cases run
    exact .inl ⟨failure, first, rfl⟩

theorem bind_ok {step : Step α} {next : α → Step β} {state later : State} {value : β}
    (run : (step >>= next) state = some (.ok value, later)) :
    ∃ middle between, step state = some (.ok middle, between) ∧
      next middle between = some (.ok value, later) := by
  obtain ⟨_, _, failed⟩ | passed := bind_run run
  · cases failed
  · exact passed

/-- What comes behind a step that never fails. -/
theorem bind_sure {step : Step Unit} {next : Unit → Step β} {state later : State}
    {result : Except BuildError β} {Left : State → Prop}
    (run : (step >>= next) state = some (result, later))
    (sure : ∀ outcome between, step state = some (outcome, between) →
      outcome = .ok () ∧ Left between) :
    ∃ between, step state = some (.ok (), between) ∧ Left between ∧
      next () between = some (result, later) := by
  obtain ⟨_, failed, -⟩ | ⟨_, between, passed, onward⟩ := bind_run run
  · cases (sure _ _ failed).1
  · exact ⟨between, passed, (sure _ _ passed).2, onward⟩

theorem get_apply (next : State → Step β) (state : State) :
    (get >>= next) state = next state state := rfl

theorem set_apply (later : State) (next : PUnit → Step β) (state : State) :
    (set later >>= next) state = next ⟨⟩ later := rfl

theorem modify_apply (change : State → State) (next : PUnit → Step β) (state : State) :
    (modify change >>= next) state = next ⟨⟩ (change state) := rfl

/-- If both steps have results, they both succeed, or both fail in the same way. -/
def Aligned (Before : State → State → Prop) (After : α → α' → State → State → Prop)
    (Broken : State → State → Prop) (step : Step α) (step' : Step α') : Prop :=
  ∀ state state', Before state state' → ∀ result result', step state = some result →
    step' state' = some result' → Template.Paired After Broken result result'

section
variable {Before Before' Broken Broken' : State → State → Prop}
  {Between : α → α' → State → State → Prop} {After After' : β → β' → State → State → Prop}

theorem Aligned.bind {step : Step α} {step' : Step α'} {next : α → Step β} {next' : α' → Step β'}
    (first : Aligned Before Between Broken step step')
    (second : ∀ value value', Aligned (Between value value') After Broken (next value)
      (next' value')) :
    Aligned Before After Broken (step >>= next) (step' >>= next') := by
  intro state state' before result result' run run'
  rw [bind_apply] at run run'
  cases early : step state with
  | none => simp [early] at run
  | some middle =>
      cases early' : step' state' with
      | none => simp [early'] at run'
      | some middle' =>
          rw [early] at run
          rw [early'] at run'
          cases first state state' before middle middle' early early' with
          | ok whole => exact second _ _ _ _ whole result result' run run'
          | error failure broken =>
              cases run
              cases run'
              exact .error failure broken

theorem Aligned.given {step : Step β} {step' : Step β'}
    (aligned : Aligned Before After Broken step step')
    (stronger : ∀ state state', Before' state state' → Before state state') :
    Aligned Before' After Broken step step' :=
  fun state state' before => aligned state state' (stronger state state' before)

theorem Aligned.leaves {step : Step β} {step' : Step β'}
    (aligned : Aligned Before After Broken step step')
    (weaker : ∀ value value' state state', After value value' state state' →
      After' value value' state state') :
    Aligned Before After' Broken step step' := by
  intro state state' before result result' run run'
  cases aligned state state' before result result' run run' with
  | ok whole => exact .ok (weaker _ _ _ _ whole)
  | error failure broken => exact .error failure broken

theorem Aligned.pure {value : β} {value' : β'}
    (whole : ∀ state state', Before state state' → After value value' state state') :
    Aligned Before After Broken (Pure.pure value) (Pure.pure value') := by
  rintro state state' before _ _ ⟨⟩ ⟨⟩
  exact .ok (whole state state' before)

theorem Aligned.modify {Left : State → State → Prop} {change change' : State → State}
    (changed : ∀ state state', Before state state' → Left (change state) (change' state')) :
    Aligned Before (fun _ _ => Left) Broken (MonadState.modifyGet fun state => ((), change state))
      (MonadState.modifyGet fun state => ((), change' state)) := by
  rintro state state' before _ _ ⟨⟩ ⟨⟩
  exact .ok (changed state state' before)

end
end Step

/-- What the templates of a plan are told. -/
def Plan.context (plan : Plan) (directory : Option Nat) (news : Option News.Item) :
    Template.Context :=
  ⟨plan.settings.conventions, plan.now, directory, news⟩

/-- A report without its diagnostics. -/
def Report.shown (report : Report) : Report :=
  { report with diagnostics := #[] }

theorem Report.shown_addDiagnostics (report : Report) (template : String)
    (diagnostics : Array Template.Diagnostic) :
    (report.addDiagnostics template diagnostics).shown = report.shown := by
  unfold addDiagnostics
  refine Array.foldl_induction (fun _ (later : Report) => later.shown = report.shown) rfl ?_
  intro _ later same
  unfold addDiagnostic
  split
  · exact same
  · exact same

/-- What the diagnostics have no part in. -/
theorem Report.frame_of_shown {report report' : Report} (same : report.shown = report'.shown) :
    report.directories = report'.directories ∧ report.news = report'.news ∧
      report.outputs = report'.outputs := by
  have directories := congrArg Report.directories same
  have news := congrArg Report.news same
  have outputs := congrArg Report.outputs same
  exact ⟨directories, news, outputs⟩

/-- The state behind the expansion of a template. -/
def State.expanded (state : State) (name : String) (after : Template)
    (later : Template.Scene FileWriter) : State :=
  { state with
    files := later.out.files
    arena := later.arena
    report := state.report.addDiagnostics name after.diagnostics }

section
variable (state : State) (kind other : FeedKind) (feed : Option Feed)

@[simp] theorem State.setFeed_files : (state.setFeed kind feed).files = state.files := by
  cases kind <;> rfl

@[simp] theorem State.setFeed_arena : (state.setFeed kind feed).arena = state.arena := by
  cases kind <;> rfl

@[simp] theorem State.setFeed_index : (state.setFeed kind feed).index = state.index := by
  cases kind <;> rfl

@[simp] theorem State.setFeed_report : (state.setFeed kind feed).report = state.report := by
  cases kind <;> rfl

@[simp] theorem State.setFeed_feed? : state.setFeed kind (state.feed? kind) = state := by
  cases kind <;> rfl

@[simp] theorem State.feed?_setFeed :
    (state.setFeed kind feed).feed? other = if other = kind then feed else state.feed? other := by
  cases kind <;> cases other <;> rfl

end

/-- The state behind the expansion of a section of a feed. -/
def State.fed (state : State) (kind : FeedKind) (feed : Feed) (after : Template)
    (later : Template.Scene FileWriter) : State :=
  (state.expanded feed.templateName after later).setFeed kind
    (some { feed with template := after.takeDiagnostics.2, out := later.out.out })

section
variable (state : State) (kind : FeedKind) (feed : Feed) (after : Template)
  (later : Template.Scene FileWriter)

@[simp] theorem State.fed_arena : (state.fed kind feed after later).arena = later.arena := by
  rw [fed, setFeed_arena]
  rfl

@[simp] theorem State.fed_index : (state.fed kind feed after later).index = state.index := by
  rw [fed, setFeed_index]
  rfl

end

/-- The state behind the expansion of an index, with what has come into its file. -/
def State.indexed (state : State) (name : String) (after : Template)
    (later : Template.Scene FileWriter) (files : FileSystem) : State :=
  { state.expanded name after later with files, index := some after.takeDiagnostics.2 }

/-- The state behind a feed that has been written and closed. -/
def State.sealed (state : State) (kind : FeedKind) (feed : Feed) (files : FileSystem) : State :=
  { state.setFeed kind none with
    files
    report := { state.report with outputs := state.report.outputs.push feed.path } }

section
variable (state : State) (kind other : FeedKind) (feed : Feed) (files : FileSystem)

end

namespace Step

section
variable {plan : Plan} {directory : Option Nat} {news : Option News.Item} {suppressed : Bool}
  {state later : State}

theorem expand_run {name : String} {template : Template} {out : BufferedFile}
    {result : Except BuildError (Except FileError Template.Ending × Template × BufferedFile)}
    (run : expand plan directory news suppressed name template out state = some (result, later)) :
    ∃ outcome after scene,
      template.expand (Template.sceneHost FileWriter.sink (plan.context directory news)) plan.fuel
          suppressed ⟨state.arena, 0, ⟨state.files, out⟩⟩ = some (outcome, after, scene) ∧
        result = .ok (outcome, after.takeDiagnostics.2, scene.out.out) ∧
        later = state.expanded name after scene := by
  unfold expand at run
  rw [get_apply] at run
  rcases ended : template.expand (Template.sceneHost FileWriter.sink (plan.context directory news))
    plan.fuel suppressed ⟨state.arena, 0, ⟨state.files, out⟩⟩ with _ | ⟨outcome, after, scene⟩
  all_goals
    unfold Plan.context at ended
    simp only [ended] at run
  · cases run
  · cases run
    exact ⟨outcome, after, scene, rfl, rfl, rfl⟩

/-- What is done behind an expansion, which does not fail itself. -/
theorem expand_onward {name : String} {template : Template} {out : BufferedFile} {β : Type}
    {next : Except FileError Template.Ending × Template × BufferedFile → Step β}
    {result : Except BuildError β}
    (run : (expand plan directory news suppressed name template out >>= next) state =
      some (result, later)) :
    ∃ outcome after scene,
      template.expand (Template.sceneHost FileWriter.sink (plan.context directory news)) plan.fuel
          suppressed ⟨state.arena, 0, ⟨state.files, out⟩⟩ = some (outcome, after, scene) ∧
        next (outcome, after.takeDiagnostics.2, scene.out.out) (state.expanded name after scene) =
          some (result, later) := by
  obtain ⟨_, failed, -⟩ | ⟨_, between, early, onward⟩ := bind_run run
  · obtain ⟨_, _, _, _, ⟨⟩, _⟩ := expand_run failed
  · obtain ⟨outcome, after, scene, ended, ⟨⟩, rfl⟩ := expand_run early
    exact ⟨outcome, after, scene, ended, onward⟩

/-- What expanding a section of a feed comes to. -/
inductive ExpandsFeed (plan : Plan) (kind : FeedKind) (directory : Option Nat)
    (news : Option News.Item) (suppressed : Bool) (state : State) :
    Except BuildError Unit → State → Prop
  | closed (closed : state.feed? kind = none) :
      ExpandsFeed plan kind directory news suppressed state (.ok ()) state
  | failed {feed : Feed} {cause : FileError} {after : Template} {scene : Template.Scene FileWriter}
      (opened : state.feed? kind = some feed)
      (ended : feed.template.expand
        (Template.sceneHost FileWriter.sink (plan.context directory news)) plan.fuel suppressed
        ⟨state.arena, 0, ⟨state.files, feed.out⟩⟩ = some (.error cause, after, scene)) :
      ExpandsFeed plan kind directory news suppressed state (.error (.inaccessible feed.path cause))
        (state.fed kind feed after scene)
  | expanded {feed : Feed} {ending : Template.Ending} {after : Template}
      {scene : Template.Scene FileWriter} (opened : state.feed? kind = some feed)
      (ended : feed.template.expand
        (Template.sceneHost FileWriter.sink (plan.context directory news)) plan.fuel suppressed
        ⟨state.arena, 0, ⟨state.files, feed.out⟩⟩ = some (.ok ending, after, scene)) :
      ExpandsFeed plan kind directory news suppressed state (.ok ()) (state.fed kind feed after scene)

theorem expandFeed_cases {kind : FeedKind} {result : Except BuildError Unit}
    (run : expandFeed plan kind directory news suppressed state = some (result, later)) :
    ExpandsFeed plan kind directory news suppressed state result later := by
  unfold expandFeed at run
  rw [get_apply] at run
  cases opened : state.feed? kind with
  | none =>
      rw [opened] at run
      cases run
      exact .closed opened
  | some feed =>
      rw [opened] at run
      obtain ⟨outcome, after, scene, ended, onward⟩ := expand_onward run
      dsimp only at onward
      rw [modify_apply] at onward
      cases outcome with
      | error cause =>
          cases onward
          exact .failed opened ended
      | ok ending =>
          cases onward
          exact .expanded opened ended

/-- A section of an open feed is expanded without failure, for its file is there to be written to. -/
theorem expandFeed_ok {kind : FeedKind} {feed : Feed} (opened : state.feed? kind = some feed)
    {content : ByteArray} (holds : state.files.node? feed.out.file.location = some (.file content))
    {result : Except BuildError Unit}
    (run : expandFeed plan kind directory news suppressed state = some (result, later)) :
    ∃ ending after scene,
      feed.template.expand (Template.sceneHost FileWriter.sink (plan.context directory news))
          plan.fuel suppressed ⟨state.arena, 0, ⟨state.files, feed.out⟩⟩ =
        some (.ok ending, after, scene) ∧
      result = .ok () ∧ later = state.fed kind feed after scene := by
  cases expandFeed_cases run with
  | closed closed => cases closed.symm.trans opened
  | failed opened' ended =>
      cases opened.symm.trans opened'
      obtain ⟨⟨_, ⟨⟩⟩, _⟩ := Template.expand_leaves holds ended
  | expanded opened' ended =>
      cases opened.symm.trans opened'
      exact ⟨_, _, _, ended, rfl, rfl⟩

theorem expandFeed_closed {kind : FeedKind} (closed : state.feed? kind = none) :
    expandFeed plan kind directory news suppressed state = some (.ok (), state) := by
  unfold expandFeed
  rw [get_apply, closed]
  rfl

theorem writeBody_closed {kind : FeedKind} {id : Nat} (closed : state.feed? kind = none) :
    writeBody plan kind id news state = some (.ok (), state) := by
  unfold writeBody
  rw [bind_apply, expandFeed_closed closed]
  change some (Except.ok (), state.setFeed kind ((state.feed? kind).map _)) = _
  rw [closed, Option.map_none, ← closed, State.setFeed_feed?]

/-- Feeds stay open. -/
theorem expandFeed_open {kind : FeedKind} {result : Except BuildError Unit}
    (run : expandFeed plan kind directory news suppressed state = some (result, later))
    (other : FeedKind) : (later.feed? other).isSome = (state.feed? other).isSome := by
  have fed {feed : Feed} (opened : state.feed? kind = some feed) (after : Template)
      (scene : Template.Scene FileWriter) :
      ((state.fed kind feed after scene).feed? other).isSome = (state.feed? other).isSome := by
    rw [State.fed, State.feed?_setFeed]
    by_cases here : other = kind
    · rw [if_pos here, here, opened]
      rfl
    · rw [if_neg here]
      cases other <;> rfl
  cases expandFeed_cases run with
  | closed => rfl
  | failed opened => exact fed opened _ _
  | expanded opened => exact fed opened _ _

theorem writeBody_open {kind : FeedKind} {id : Nat} {value : Unit}
    (run : writeBody plan kind id news state = some (.ok value, later)) (other : FeedKind) :
    (later.feed? other).isSome = (state.feed? other).isSome := by
  obtain ⟨_, between, early, ⟨⟩⟩ := bind_ok run
  rw [← expandFeed_open early, State.feed?_setFeed]
  by_cases here : other = kind
  · rw [if_pos here, here, Option.isSome_map]
  · rw [if_neg here]

theorem writeIndex_closed {id : Nat} {path : String} (closed : state.index = none) :
    writeIndex plan id path state = some (.ok false, state) := by
  unfold writeIndex
  rw [get_apply]
  simp only [closed]
  rfl

/-- An index whose file cannot be created is passed over. -/
theorem writeIndex_refused {id : Nat} {path : String} {cause : FileError}
    (refused : state.files.create (Path.join path plan.settings.outputs.index) = .error cause) :
    writeIndex plan id path state = some (.ok false, state) := by
  unfold writeIndex
  rw [get_apply]
  cases state.index with
  | none => rfl
  | some template =>
      simp only [refused]
      rfl

/-- An index is passed over, or there is a template for it and its file can be created. -/
theorem writeIndex_cases {id : Nat} {path : String} {result : Except BuildError Bool}
    (run : writeIndex plan id path state = some (result, later)) :
    (result = .ok false ∧ later = state) ∨
      ∃ template created, state.index = some template ∧
        state.files.create (Path.join path plan.settings.outputs.index) = .ok created := by
  cases opened : state.index with
  | none =>
      cases (writeIndex_closed opened).symm.trans run
      exact .inl ⟨rfl, rfl⟩
  | some template =>
      cases made : state.files.create (Path.join path plan.settings.outputs.index) with
      | error cause =>
          cases (writeIndex_refused made).symm.trans run
          exact .inl ⟨rfl, rfl⟩
      | ok created => exact .inr ⟨template, created, rfl, rfl⟩

/-- An index is written if its expansion succeeds and what waits can be written as well. -/
theorem writeIndex_expands {id : Nat} {path : String} {template : Template}
    (opened : state.index = some template) {files : FileSystem} {file : OpenFile}
    (created : state.files.create (Path.join path plan.settings.outputs.index) = .ok (files, file))
    {result : Except BuildError Bool} (run : writeIndex plan id path state = some (result, later)) :
    ∃ outcome after scene,
      template.rewind.expand
          (Template.sceneHost FileWriter.sink (plan.context (some id) none)) plan.fuel false
          ⟨state.arena, 0, ⟨files, .ofFile file⟩⟩ = some (outcome, after, scene) ∧
      ((∃ cause, outcome = .error cause ∧ result = .ok false ∧
          later = state.indexed plan.settings.templates.index after scene scene.out.files) ∨
        ∃ ending, outcome = .ok ending ∧
          result = .ok (scene.out.out.flush scene.out.files).1.isOk ∧
          later = state.indexed plan.settings.templates.index after scene
            (scene.out.out.flush scene.out.files).2.1) := by
  unfold writeIndex at run
  rw [get_apply, opened] at run
  simp only [created] at run
  rw [set_apply, ← opened] at run
  obtain ⟨outcome, after, scene, ended, onward⟩ := expand_onward run
  dsimp only at onward
  rw [modify_apply] at onward
  refine ⟨outcome, after, scene, ended, ?_⟩
  cases outcome with
  | error cause =>
      cases onward
      exact .inl ⟨cause, rfl, rfl, rfl⟩
  | ok ending =>
      cases onward
      exact .inr ⟨ending, rfl, rfl, rfl⟩

/-- An index whose file could be created is written without failure. -/
theorem writeIndex_run {id : Nat} {path : String} {template : Template}
    (opened : state.index = some template) {files : FileSystem} {location : Location}
    (created : state.files.create (Path.join path plan.settings.outputs.index) =
      .ok (files, ⟨location, 0⟩))
    {content : ByteArray} (holds : files.node? location = some (.file content))
    {result : Except BuildError Bool} (run : writeIndex plan id path state = some (result, later)) :
    ∃ ending after scene written content,
      template.rewind.expand
          (Template.sceneHost FileWriter.sink (plan.context (some id) none)) plan.fuel false
          ⟨state.arena, 0, ⟨files, .ofFile ⟨location, 0⟩⟩⟩ = some (.ok ending, after, scene) ∧
      result = .ok true ∧ Rewritten location content files written ∧
      later = { state.expanded plan.settings.templates.index after scene with
        files := written, index := some after.takeDiagnostics.2 } := by
  obtain ⟨outcome, after, scene, ended, left⟩ := writeIndex_expands opened created run
  obtain ⟨⟨ending, rfl⟩, leaves⟩ := Template.expand_leaves holds ended
  obtain ⟨content, changed⟩ := leaves.rewritten
  obtain ⟨out, content', _, flushed⟩ := scene.out.out.flush_file content
  rw [leaves.stays] at flushed
  obtain ⟨written, passed, flushed⟩ := flushed scene.out.files changed.holds
  rcases left with ⟨cause, failed, _⟩ | ⟨_, _, rfl, rfl⟩
  · cases failed
  · refine ⟨ending, after, scene, written, content', ended, ?_, changed.trans flushed, ?_⟩
    · rw [passed]
      rfl
    · rw [passed]
      rfl

end

theorem readTemplate_apply (plan : Plan) (name : String) (state : State) :
    readTemplate plan name state =
      match state.files.readText (Path.join plan.root name) with
      | .ok source => some (.ok (some source), state)
      | .error .notFound => some (.ok none, state)
      | .error cause => some (.error (.inaccessible (Path.join plan.root name) cause), state) := by
  unfold readTemplate
  rw [get_apply]
  cases state.files.readText (Path.join plan.root name) with
  | error cause => cases cause <;> rfl
  | ok source => rfl

/-- A feed is opened where its template can be read and its file created. -/
theorem openFeed_apply (plan : Plan) (kind : FeedKind) (templateName outputName : String)
    (state : State) :
    openFeed plan kind templateName outputName state =
      match state.files.readText (Path.join plan.root templateName) with
      | .ok source =>
          match state.files.create (Path.join plan.root outputName) with
          | .error cause =>
              some (.error (.inaccessible (Path.join plan.root outputName) cause), state)
          | .ok (files, file) =>
              some (.ok (), { state.setFeed kind (some
                ⟨templateName, .ofSource source, Path.join plan.root outputName, .ofFile file⟩) with
                  files })
      | .error .notFound => some (.ok (), state)
      | .error cause =>
          some (.error (.inaccessible (Path.join plan.root templateName) cause), state) := by
  unfold openFeed
  rw [bind_apply, readTemplate_apply]
  cases state.files.readText (Path.join plan.root templateName) with
  | error cause => cases cause <;> rfl
  | ok source =>
      dsimp only
      rw [get_apply]
      cases state.files.create (Path.join plan.root outputName) <;> rfl

/-- What opening a feed comes to. -/
inductive OpensFeed (plan : Plan) (kind : FeedKind) (templateName outputName : String) (state : State) :
    Except BuildError Unit → State → Prop
  | missing (read : state.files.readText (Path.join plan.root templateName) = .error .notFound) :
      OpensFeed plan kind templateName outputName state (.ok ()) state
  | unreadable {cause : FileError}
      (read : state.files.readText (Path.join plan.root templateName) = .error cause)
      (present : cause ≠ .notFound) :
      OpensFeed plan kind templateName outputName state
        (.error (.inaccessible (Path.join plan.root templateName) cause)) state
  | refused {source : String} {cause : FileError}
      (read : state.files.readText (Path.join plan.root templateName) = .ok source)
      (refused : state.files.create (Path.join plan.root outputName) = .error cause) :
      OpensFeed plan kind templateName outputName state
        (.error (.inaccessible (Path.join plan.root outputName) cause)) state
  | opened {source : String} {files : FileSystem} {file : OpenFile}
      (read : state.files.readText (Path.join plan.root templateName) = .ok source)
      (created : state.files.create (Path.join plan.root outputName) = .ok (files, file)) :
      OpensFeed plan kind templateName outputName state (.ok ())
        (State.setFeed { state with files } kind (some
          ⟨templateName, .ofSource source, Path.join plan.root outputName, .ofFile file⟩))

theorem openFeed_cases {plan : Plan} {kind : FeedKind} {templateName outputName : String}
    {state later : State} {result : Except BuildError Unit}
    (run : openFeed plan kind templateName outputName state = some (result, later)) :
    OpensFeed plan kind templateName outputName state result later := by
  rw [openFeed_apply] at run
  split at run
  · next source read =>
    split at run
    · next cause refused =>
      cases run
      exact .refused read refused
    · next files file created =>
      cases run
      have opens := @OpensFeed.opened plan kind _ _ _ source files file read created
      cases kind <;> exact opens
  · next missing =>
    cases run
    exact .missing missing
  · next cause present read =>
    cases run
    exact .unreadable read present

theorem OpensFeed.run {plan : Plan} {kind : FeedKind} {templateName outputName : String}
    {state later : State} {result : Except BuildError Unit}
    (opens : OpensFeed plan kind templateName outputName state result later) :
    openFeed plan kind templateName outputName state = some (result, later) := by
  rw [openFeed_apply]
  cases opens with
  | missing read => rw [read]
  | @unreadable cause read present =>
      rw [read]
      cases cause <;> trivial
  | refused read refused => simp only [read, refused]
  | opened read created =>
      simp only [read, created]
      cases kind <;> rfl

/-- Keeps the text of the index template, if there is one. -/
def readIndex (plan : Plan) : Step Unit := do
  if let some source ← readTemplate plan plan.settings.templates.index then
    modify fun state => { state with index := some (.withLayout source .bodyOnly) }

theorem readIndex_apply (plan : Plan) (state : State) :
    readIndex plan state =
      match state.files.readText (Path.join plan.root plan.settings.templates.index) with
      | .ok source =>
          some (.ok (), { state with index := some (.withLayout source .bodyOnly) })
      | .error .notFound => some (.ok (), state)
      | .error cause =>
          some (.error (.inaccessible (Path.join plan.root plan.settings.templates.index) cause),
            state) := by
  unfold readIndex
  rw [bind_apply, readTemplate_apply]
  cases state.files.readText (Path.join plan.root plan.settings.templates.index) with
  | error cause => cases cause <;> rfl
  | ok source => rfl

/-- Fails if no template has been found. -/
def requireTemplate (plan : Plan) : Step Unit := do
  let state ← get
  if state.index.isNone && state.sitemap.isNone && state.newsfeed.isNone then
    throw (.noTemplates plan.root plan.settings.templates)

theorem openSite_eq (plan : Plan) :
    openSite plan = (do
      readIndex plan
      openFeed plan .sitemap plan.settings.templates.sitemap plan.settings.outputs.sitemap
      openFeed plan .newsfeed plan.settings.templates.newsfeed plan.settings.outputs.newsfeed
      requireTemplate plan
      writeHead plan .sitemap
      writeHead plan .newsfeed) := by
  have required (rest : Step Unit) :
      (do
        let state ← get
        if state.index.isNone && state.sitemap.isNone && state.newsfeed.isNone then do
          throw (BuildError.noTemplates plan.root plan.settings.templates)
          rest
        else rest) = (do
        requireTemplate plan
        rest) := by
    unfold requireTemplate
    rw [bind_assoc]
    refine bind_congr fun state => ?_
    split <;> rfl
  unfold openSite readIndex
  rw [bind_assoc]
  refine bind_congr fun source => ?_
  cases source <;> simp only [pure_bind, required]

/-- Notes what a directory has come to, and sets its cursor back. -/
def noteDirectory (id : Nat) (directory way : String) (index : Bool) : Step Nat := do
  let state ← get
  let snapshot := (state.arena.get? id).getD (.empty none none directory)
  let entry : DirectoryReport :=
    ⟨way, snapshot.directories.length, snapshot.files.length, index⟩
  set { state with
    arena := state.arena.resetCursor id
    report := { state.report with directories := state.report.directories.push entry } }
  return snapshot.entries.length

/-- Writes everything that belongs to a directory to which the way is known. -/
def writePages (plan : Plan) (id : Nat) (directory way : String) (sidecars : List String) :
    Step Nat := do
  announceAll plan id directory way sidecars
  let index ← writeIndex plan id directory
  writeBody plan .sitemap id none
  noteDirectory id directory way index

theorem writeDirectory_apply (plan : Plan) (id : Nat) (directory : String)
    (sidecars : List String) (state : State) :
    writeDirectory plan id directory sidecars state =
      writePages plan id directory (state.arena.pathString id).1 sidecars
        { state with arena := (state.arena.pathString id).2 } := by
  rfl

theorem visitChildren_succ (visit : String → Step Unit) (id limit : Nat) {state : State}
    {base : Arena} (same : state.arena.unmarked = base) :
    visitChildren visit id (limit + 1) state =
      (match (base.get? id).bind Snapshot.nextDirectory? with
        | none => pure ()
        | some name => do
            visit name
            visitChildren visit id limit : Step Unit)
        { state with arena := (state.arena.advance id).2 } := by
  conv => lhs; unfold visitChildren
  rw [get_apply, Arena.nextDirectory_of_unmarked same]
  rfl

/-- A directory that cannot be read is passed over, unless it is the root. -/
theorem visit_refused {plan : Plan} {parent : Option Nat} {path : String} {state : State}
    {cause : ListingError}
    (refused : state.arena.visit state.files plan.settings parent path = .error cause)
    (levels : Nat) :
    visit plan (levels + 1) parent path state =
      (if parent.isSome then pure () else throw (.listing cause) : Step Unit) state := by
  conv => lhs; unfold visit
  rw [get_apply, refused]

/-- Writes in a directory that has been entered, goes to those below it and leaves it. -/
def explore (plan : Plan) (levels id : Nat) (path : String) (sidecars : List String) :
    Step Unit := do
  let count ← writeDirectory plan id path sidecars
  visitChildren (fun name => visit plan levels (some id) (Path.join path name)) id (count + 1)
  modify fun state => { state with arena := (state.arena.resetCursor id).leave id }

theorem visit_entered {plan : Plan} {parent : Option Nat} {path : String} {state : State}
    {arena : Arena} {id : Nat}
    (entered : state.arena.visit state.files plan.settings parent path = .ok (arena, id))
    (levels : Nat) :
    visit plan (levels + 1) parent path state =
      explore plan levels id path (newsSidecars state.files plan.settings path)
        { state with arena } := by
  conv => lhs; unfold visit
  rw [get_apply, entered]
  rfl

/-- What is done only to a feed with a head and a tail. -/
def ifDivided (kind : FeedKind) (step : Step Unit) : Step Unit := do
  if let some feed := (← get).feed? kind then
    if feed.template.layout = .headBodyTail then step

theorem writeHead_eq (plan : Plan) (kind : FeedKind) :
    writeHead plan kind = ifDivided kind (expandFeed plan kind none none false) :=
  rfl

/-- Writes what waits for an open feed and closes it. -/
def sealFeed (kind : FeedKind) : Step Unit := do
  if let some feed := (← get).feed? kind then
    let state ← get
    match feed.out.flush state.files with
    | (.error cause, files, _) =>
        set { state.setFeed kind none with files }
        throw (.inaccessible feed.path cause)
    | (.ok _, files, _) =>
        set { state.setFeed kind none with
          files
          report := { state.report with outputs := state.report.outputs.push feed.path } }

theorem finishFeed_eq (plan : Plan) (kind : FeedKind) :
    finishFeed plan kind = (do
      ifDivided kind (do
        expandFeed plan kind none none true
        expandFeed plan kind none none false)
      sealFeed kind) := by
  funext state
  unfold finishFeed ifDivided
  rw [bind_assoc, get_apply, get_apply]
  cases opened : state.feed? kind with
  | none => rfl
  | some feed =>
      dsimp only
      split
      · rw [bind_assoc]
        rfl
      · rfl

end Step

section
variable {kind : FeedKind} {state : State} {step : Step Unit}

theorem ifDivided_closed (closed : state.feed? kind = none) :
    Step.ifDivided kind step state = some (.ok (), state) := by
  unfold Step.ifDivided
  rw [Step.get_apply, closed]
  rfl

theorem ifDivided_opened {feed : Feed} (opened : state.feed? kind = some feed) :
    Step.ifDivided kind step state =
      if feed.template.layout = .headBodyTail then step state else some (.ok (), state) := by
  unfold Step.ifDivided
  rw [Step.get_apply, opened]
  dsimp only
  split <;> rfl

theorem sealFeed_closed (closed : state.feed? kind = none) :
    Step.sealFeed kind state = some (.ok (), state) := by
  unfold Step.sealFeed
  rw [Step.get_apply, closed]
  rfl

theorem sealFeed_opened {feed : Feed} (opened : state.feed? kind = some feed) {files : FileSystem}
    {out : BufferedFile} (flushed : feed.out.flush state.files = (.ok (), files, out)) :
    Step.sealFeed kind state = some (.ok (), state.sealed kind feed files) := by
  unfold Step.sealFeed
  rw [Step.get_apply]
  simp only [opened]
  rw [Step.get_apply, flushed]
  rfl

/-- A feed that cannot be written is closed, and the build fails. -/
theorem sealFeed_failed {feed : Feed} (opened : state.feed? kind = some feed) {cause : FileError}
    {files : FileSystem} {out : BufferedFile}
    (failed : feed.out.flush state.files = (.error cause, files, out)) :
    Step.sealFeed kind state =
      some (.error (.inaccessible feed.path cause), { state.setFeed kind none with files }) := by
  unfold Step.sealFeed
  rw [Step.get_apply]
  simp only [opened]
  rw [Step.get_apply, failed]
  rfl

/-- What closing a feed comes to. -/
inductive SealsFeed (kind : FeedKind) (state : State) : Except BuildError Unit → State → Prop
  | closed (closed : state.feed? kind = none) : SealsFeed kind state (.ok ()) state
  | failed {feed : Feed} {cause : FileError} {files : FileSystem} {out : BufferedFile}
      (opened : state.feed? kind = some feed)
      (flushed : feed.out.flush state.files = (.error cause, files, out)) :
      SealsFeed kind state (.error (.inaccessible feed.path cause))
        { state.setFeed kind none with files }
  | sealed {feed : Feed} {files : FileSystem} {out : BufferedFile}
      (opened : state.feed? kind = some feed)
      (flushed : feed.out.flush state.files = (.ok (), files, out)) :
      SealsFeed kind state (.ok ()) (state.sealed kind feed files)

theorem sealFeed_cases {result : Except BuildError Unit} {later : State}
    (run : Step.sealFeed kind state = some (result, later)) : SealsFeed kind state result later := by
  cases opened : state.feed? kind with
  | none =>
      cases (sealFeed_closed opened).symm.trans run
      exact .closed opened
  | some feed =>
      rcases flushed : feed.out.flush state.files with ⟨cause | _, files, out⟩
      · cases (sealFeed_failed opened flushed).symm.trans run
        exact .failed opened flushed
      · cases (sealFeed_opened opened flushed).symm.trans run
        exact .sealed opened flushed

end

theorem State.closeFeed_closed {state : State} {kind : FeedKind} (closed : state.feed? kind = none) :
    state.closeFeed kind = state := by
  unfold State.closeFeed
  rw [closed]

/-- A build that has a result has gone through all its steps, and closes the feeds that are still
open. -/
theorem build_run {plan : Plan} {files later : FileSystem} {result : Except BuildError Report}
    (built : build plan files = some (result, later)) :
    ∃ state, Step.buildSite plan (State.start files) = some (result, state) ∧
      later = ((state.closeFeed .sitemap).closeFeed .newsfeed).files := by
  unfold build at built
  cases run : (Step.buildSite plan).run.run (State.start files) with
  | none =>
      rw [run] at built
      cases built
  | some ended =>
      rw [run] at built
      cases built
      exact ⟨ended.2, run, rfl⟩

end SiteIndex.Build

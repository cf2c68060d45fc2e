import SiteIndex.Proofs.Build.Telling
import SiteIndex.Proofs.Template.AheadScenes

/-!
Two builds by one plan, of which the second starts from files that are ahead of those that the first
starts from. Where a step of the first succeeds, the same step of the second does, and all but the files
are the same behind it. The files of the second stay ahead, and no step sees in which places they are.
-/

namespace SiteIndex.Build

open SiteIndex.Listing SiteIndex.FileSystem SiteIndex.Template

namespace Step

variable {α β : Type}

/-- Where the step succeeds from a state, it does so with other files in place of those of the state. -/
def Repeats (Before : State → FileSystem → Prop) (After : α → State → FileSystem → Prop)
    (step : Step α) : Prop :=
  ∀ state ahead, Before state ahead → ∀ value later, step state = some (.ok value, later) →
    ∃ ahead', step { state with files := ahead } = some (.ok value, { later with files := ahead' }) ∧
      After value later ahead'

section
variable {Before Before' : State → FileSystem → Prop} {Between : α → State → FileSystem → Prop}
  {After After' : β → State → FileSystem → Prop}

theorem Repeats.bind {step : Step α} {next : α → Step β} (first : Repeats Before Between step)
    (second : ∀ value, Repeats (Between value) After (next value)) :
    Repeats Before After (step >>= next) := by
  intro state ahead before value later run
  obtain ⟨between, middle, early, onward⟩ := bind_ok run
  obtain ⟨ahead', early', whole⟩ := first state ahead before between middle early
  rw [bind_apply, early']
  exact second between middle ahead' whole value later onward

theorem Repeats.given {step : Step β} (repeats : Repeats Before After step)
    (stronger : ∀ state ahead, Before' state ahead → Before state ahead) :
    Repeats Before' After step :=
  fun state ahead before => repeats state ahead (stronger state ahead before)

theorem Repeats.pure {value : β} (whole : ∀ state ahead, Before state ahead → After value state ahead) :
    Repeats Before After (Pure.pure value) := by
  rintro state ahead before _ _ ⟨⟩
  exact ⟨ahead, rfl, whole state ahead before⟩

theorem Repeats.modify {change : State → State} {Left : State → FileSystem → Prop}
    (changed : ∀ state ahead, Before state ahead →
      change { state with files := ahead } = { change state with files := ahead } ∧
        Left (change state) ahead) :
    Repeats Before (fun _ => Left) (MonadState.modifyGet fun state => ((), change state)) := by
  rintro state ahead before _ _ ⟨⟩
  obtain ⟨same, left⟩ := changed state ahead before
  exact ⟨ahead, congrArg (fun later => some (Except.ok (), later)) same, left⟩

/-- What the first of the two steps leads to besides. -/
theorem Repeats.along {At Broken : State → Prop} {At' : β → State → Prop} {step : Step β}
    (repeats : Repeats (fun state ahead => At state ∧ Before state ahead) After step)
    (keeps : Leads At At' Broken step) :
    Repeats (fun state ahead => At state ∧ Before state ahead)
      (fun value state ahead => At' value state ∧ After value state ahead) step := by
  intro state ahead before value later run
  obtain ⟨ahead', run', whole⟩ := repeats state ahead before value later run
  exact ⟨ahead', run', keeps state before.1 _ _ run, whole⟩

end

section
variable {plan : Plan} {directory : Option Nat} {news : Option News.Item} {suppressed : Bool}
  {state : State} {template after : Template} {scene : Scene FileWriter}

theorem expand_ends {name : String} {out : BufferedFile} {outcome : Except FileError Ending}
    (ended : template.expand (sceneHost FileWriter.sink (plan.context directory news)) plan.fuel
      suppressed ⟨state.arena, 0, ⟨state.files, out⟩⟩ = some (outcome, after, scene)) :
    expand plan directory news suppressed name template out state =
      some (.ok (outcome, after.takeDiagnostics.2, scene.out.out),
        state.expanded name after scene) := by
  unfold expand
  rw [get_apply]
  unfold Plan.context at ended
  simp only [ended]
  rfl

theorem expandFeed_ends {kind : FeedKind} {feed : Feed} (opened : state.feed? kind = some feed)
    {ending : Ending}
    (ended : feed.template.expand (sceneHost FileWriter.sink (plan.context directory news)) plan.fuel
      suppressed ⟨state.arena, 0, ⟨state.files, feed.out⟩⟩ = some (.ok ending, after, scene)) :
    expandFeed plan kind directory news suppressed state =
      some (.ok (), state.fed kind feed after scene) := by
  unfold expandFeed
  rw [get_apply, opened]
  dsimp only
  rw [bind_apply, expand_ends ended]
  rfl

theorem writeIndex_ends {id : Nat} {path : String} (opened : state.index = some template)
    {files written : FileSystem} {file : OpenFile} {out : BufferedFile}
    (created : state.files.create (Path.join path plan.settings.outputs.index) = .ok (files, file))
    {ending : Ending}
    (ended : template.rewind.expand (sceneHost FileWriter.sink (plan.context (some id) none))
      plan.fuel false ⟨state.arena, 0, ⟨files, .ofFile file⟩⟩ = some (.ok ending, after, scene))
    (flushed : scene.out.out.flush scene.out.files = (.ok (), written, out)) :
    writeIndex plan id path state = some (.ok true,
      { state.expanded plan.settings.templates.index after scene with
        files := written, index := some after.takeDiagnostics.2 }) := by
  have expands : expand plan (some id) none false plan.settings.templates.index template.rewind
      (.ofFile file) { state with files } =
        some (.ok (.ok ending, after.takeDiagnostics.2, scene.out.out),
          ({ state with files } : State).expanded plan.settings.templates.index after scene) :=
    expand_ends ended
  unfold writeIndex
  rw [get_apply, opened]
  simp only [created]
  rw [set_apply, bind_apply, ← opened, expands]
  dsimp only
  rw [modify_apply, get_apply]
  dsimp only [State.expanded]
  rw [flushed]
  rfl

theorem announce_unread {id : Nat} {path way sidecar : String} {cause : News.NewsError}
    (unread : News.Item.load state.files plan.settings.conventions path sidecar = .error cause) :
    announce plan id path way sidecar state = some (.ok (), state) := by
  unfold announce
  rw [get_apply, unread]
  rfl

theorem announce_loaded {id : Nat} {path way sidecar : String} {item : News.Item}
    (loaded : News.Item.load state.files plan.settings.conventions path sidecar = .ok item) :
    announce plan id path way sidecar state = writeBody plan .newsfeed id (some item)
      { state with
        report := { state.report with
          news := state.report.news.push ⟨way ++ item.name, item.date.text, item.title⟩ } } := by
  unfold announce
  rw [get_apply, loaded]
  rfl

end
end Step

/-- At work, with files that are ahead of those of the build. -/
abbrev Led (plan : Plan) (place : Location) (veil : Location → Prop) (origin final : FileSystem)
    (spot : Option Nat) (base : Arena) (state : State) (ahead : FileSystem) : Prop :=
  Working plan place (plan.Writes place) (fun _ => False) origin spot base state ∧
    Ahead place veil final state.files ahead

/-- Led before and after. -/
abbrev Follows (plan : Plan) (place : Location) (veil : Location → Prop) (origin final : FileSystem)
    (spot : Option Nat) (base : Arena) {α : Type} (step : Step α) : Prop :=
  Step.Repeats (Led plan place veil origin final spot base)
    (fun _ => Led plan place veil origin final spot base) step

section
variable {plan : Plan} {place : Location} {veil : Location → Prop} {origin final : FileSystem}
  {spot : Option Nat} {base : Arena} {state : State} {ahead : FileSystem} {kind : FeedKind}

theorem State.fed_ahead (state : State) (kind : FeedKind) (feed : Feed) (after : Template)
    (ahead : FileSystem) {scene scene' : Scene FileWriter} (arena : scene'.arena = scene.arena)
    (out : scene'.out.out = scene.out.out) :
    ({ state with files := ahead } : State).fed kind feed after scene' =
      { state.fed kind feed after scene with files := scene'.out.files } := by
  unfold State.fed State.expanded
  rw [arena, out]
  cases kind <;> rfl

theorem State.feed?_ahead (state : State) (ahead : FileSystem) (kind : FeedKind) :
    ({ state with files := ahead } : State).feed? kind = state.feed? kind := by
  cases kind <;> rfl

section
variable (ground : Ground plan place (plan.Writes place) (fun _ => False) origin)
  (shown : ∀ kind, ¬ veil (plan.output place kind))
include ground shown

theorem expandFeed_follows (kind : FeedKind) (spot : Option Nat) (news : Option News.Item)
    (suppressed : Bool)
    (housed : ∀ state, Working plan place (plan.Writes place) (fun _ => False) origin spot base state →
      Housed place veil (plan.context spot news) state.arena state.files) :
    Follows plan place veil origin final spot base
      (Step.expandFeed plan kind spot news suppressed) := by
  refine Step.Repeats.along ?_ (expandFeed_working ground kind spot news suppressed)
  rintro state ahead ⟨working, files⟩ value later run
  cases opened : state.feed? kind with
  | none =>
      rw [Step.expandFeed_closed opened] at run
      cases run
      exact ⟨ahead, Step.expandFeed_closed ((state.feed?_ahead ahead kind).trans opened), files⟩
  | some feed =>
      obtain ⟨lies, content, holds⟩ := working.feeds kind feed opened
      obtain ⟨ending, after, scene, ended, -, rfl⟩ := Step.expandFeed_ok opened holds run
      have beside : Scene.Beside place veil final (plan.context spot news)
          ⟨state.arena, 0, ⟨state.files, feed.out⟩⟩ ⟨state.arena, 0, ⟨ahead, feed.out⟩⟩ :=
        { housed := housed state working
          arena := rfl
          rootSteps := rfl
          out := rfl
          files
          same := files.shown (lies ▸ shown kind)
          holds := ⟨content, holds⟩ }
      obtain ⟨scene', ended', beside⟩ := expand_ahead beside ended
      refine ⟨scene'.out.files, ?_, ?_⟩
      · rw [Step.expandFeed_ends ((state.feed?_ahead ahead kind).trans opened) ended',
          state.fed_ahead kind feed after ahead beside.arena beside.out]
      · simpa only [State.fed, State.setFeed_files, State.expanded] using beside.files

theorem writeBody_follows (kind : FeedKind) (id : Nat) (news : Option News.Item)
    (housed : ∀ state,
      Working plan place (plan.Writes place) (fun _ => False) origin (some id) base state →
        Housed place veil (plan.context (some id) news) state.arena state.files) :
    Follows plan place veil origin final (some id) base (Step.writeBody plan kind id news) := by
  refine Step.Repeats.along ?_ (writeBody_working ground kind id news)
  refine (expandFeed_follows ground shown kind (some id) news false housed).bind fun _ => ?_
  refine Step.Repeats.modify fun state ahead ⟨_, files⟩ => ⟨?_, ?_⟩
  · cases kind <;> rfl
  · rw [State.setFeed_files]
    exact files

omit ground shown in
theorem ifDivided_follows (kind : FeedKind) {step : Step Unit}
    (follows : Follows plan place veil origin final none base step) :
    Follows plan place veil origin final none base (Step.ifDivided kind step) := by
  intro state ahead led value later run
  have same := state.feed?_ahead ahead kind
  cases opened : state.feed? kind with
  | none =>
      rw [ifDivided_closed opened] at run
      cases run
      exact ⟨ahead, ifDivided_closed (same.trans opened), led⟩
  | some feed =>
      rw [ifDivided_opened opened] at run
      rw [ifDivided_opened (same.trans opened)]
      by_cases divided : feed.template.layout = .headBodyTail
      · rw [if_pos divided] at run ⊢
        exact follows state ahead led value later run
      · rw [if_neg divided] at run ⊢
        cases run
        exact ⟨ahead, rfl, led⟩

omit ground in
/-- What waits for an open feed is written to the files of both. -/
theorem Led.flushed (led : Led plan place veil origin final none base state ahead) {feed : Feed}
    (opened : state.feed? kind = some feed) :
    ∃ files ahead' out, feed.out.flush state.files = (.ok (), files, out) ∧
      feed.out.flush ahead = (.ok (), ahead', out) ∧ Ahead place veil final files ahead' := by
  obtain ⟨lies, content, holds⟩ := led.1.feeds kind feed opened
  obtain ⟨out, content', _, flushed⟩ := feed.out.flush_file content
  obtain ⟨files, passed, changed⟩ := flushed state.files holds
  obtain ⟨ahead', passed', changed'⟩ :=
    flushed ahead ((led.2.shown (lies ▸ shown kind)).trans holds)
  exact ⟨files, ahead', out, passed, passed', led.2.rewritten changed changed'⟩

theorem sealFeed_follows (kind : FeedKind) :
    Follows plan place veil origin final none base (Step.sealFeed kind) := by
  refine Step.Repeats.along ?_ (sealFeed_working ground kind)
  intro state ahead led value later run
  have same := state.feed?_ahead ahead kind
  cases opened : state.feed? kind with
  | none =>
      rw [sealFeed_closed opened] at run
      cases run
      exact ⟨ahead, sealFeed_closed (same.trans opened), led.2⟩
  | some feed =>
      obtain ⟨files, ahead', out, flushed, flushed', further⟩ := Led.flushed shown led opened
      rw [sealFeed_opened opened flushed] at run
      cases run
      refine ⟨ahead', (sealFeed_opened (same.trans opened) flushed').trans ?_, further⟩
      cases kind <;> rfl

theorem Led.closeFeed (led : Led plan place veil origin final none base state ahead)
    (kind : FeedKind) :
    ∃ ahead', ({ state with files := ahead } : State).closeFeed kind =
        { state.closeFeed kind with files := ahead' } ∧
      Led plan place veil origin final none base (state.closeFeed kind) ahead' := by
  have working := led.1.closeFeed ground kind
  have same := state.feed?_ahead ahead kind
  unfold State.closeFeed at working ⊢
  cases opened : state.feed? kind with
  | none =>
      simp only [opened, same] at working ⊢
      exact ⟨ahead, rfl, led⟩
  | some feed =>
      obtain ⟨files, ahead', out, flushed, flushed', further⟩ := Led.flushed shown led opened
      simp only [opened, same, flushed, flushed'] at working ⊢
      refine ⟨ahead', ?_, working, further⟩
      cases kind <;> rfl

omit shown in
/-- Outside of every directory there is nothing to look at. -/
theorem Working.housed_outside (stock : plan.settings.conventions = .stock) (hides : HidesByName veil)
    (working : Working plan place (plan.Writes place) (fun _ => False) origin spot base state) :
    Housed place veil (plan.context none none) state.arena state.files where
  conventions := stock
  tree := working.tree ground
  hides := hides
  sited _ seen := by cases seen
  announced _ told := by cases told
  leads _ seen := by cases seen

variable (stock : plan.settings.conventions = .stock) (hides : HidesByName veil)
include stock hides

theorem writeHead_follows (kind : FeedKind) :
    Follows plan place veil origin final none base (Step.writeHead plan kind) := by
  rw [Step.writeHead_eq]
  exact ifDivided_follows kind (expandFeed_follows ground shown kind none none false
    fun _ working => working.housed_outside ground stock hides)

theorem finishFeed_follows (kind : FeedKind) :
    Follows plan place veil origin final none base (Step.finishFeed plan kind) := by
  have outside (suppressed : Bool) : Follows plan place veil origin final none base
      (Step.expandFeed plan kind none none suppressed) :=
    expandFeed_follows ground shown kind none none suppressed
      fun _ working => working.housed_outside ground stock hides
  rw [Step.finishFeed_eq]
  exact (ifDivided_follows kind ((outside true).bind fun _ => outside false)).bind
    fun _ => sealFeed_follows ground shown kind

end
end

end SiteIndex.Build

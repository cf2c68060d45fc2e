import SiteIndex.Proofs.Listing.Ways
import SiteIndex.Proofs.Template.Arrivals
import SiteIndex.Proofs.Template.Quiet
import SiteIndex.Proofs.Template.Rounds

/-!
Loops that run down. Every widget that repeats its body has so many passes ahead of it when it is first
asked, and each pass that it asks for leaves it with fewer. A loop that comes to its end has none left,
so a loop of the same widget that starts in its body can only bring it to its end. What could start it
anew is a call without a body, and where there is none the expansion ends.
-/

namespace SiteIndex.Template

open SiteIndex.Listing SiteIndex.Text

section
variable {ε ω : Type}

/-- An answer of a widget that leaves the other widgets with no more passes, and the widget itself with fewer
of them if it asks for one. A widget that has not been asked before has the `fresh` passes, and one that
repeats its body those that are `left`; none is left to one that asks for no more. -/
structure RunsDown (fresh left : Widget → ω → Nat) (widget : Widget) (repeating again : Bool)
    (before after : ω) : Prop where
  others : ∀ other, other ≠ widget → left other after ≤ left other before
  pass : again = true →
    left widget after < if repeating then left widget before else fresh widget before
  done : again = false → left widget after = 0

/-- Every answer runs down, and writing leaves no widget with more passes. -/
structure Winding (host : Host ε ω) (fresh left : Widget → ω → Nat) : Prop where
  once : ∀ widget world, widget.repeats = false → fresh widget world = 0
  write : ∀ {bytes world later}, host.write bytes world = (.ok (), later) →
    ∀ widget, left widget later ≤ left widget world
  call : ∀ {widget repeating again world later},
    host.call widget repeating world = (.ok again, later) →
      RunsDown fresh left widget repeating again world later

theorem Winding.repeats {host : Host ε ω} {fresh left : Widget → ω → Nat}
    (winding : Winding host fresh left) {widget : Widget} {world : ω}
    (some : 0 < fresh widget world) : widget.repeats = true := by
  refine Bool.eq_true_of_not_eq_false fun once => ?_
  rw [winding.once widget world once] at some
  exact Nat.lt_irrefl 0 some

/-- No widget but those that are `bare` has more passes left than before. -/
def Fewer (left : Widget → ω → Nat) (bare : Widget → Bool) (before after : ω) : Prop :=
  ∀ widget, bare widget = false → left widget after ≤ left widget before

namespace Section

/-- Whether it calls the widget without a body, be it in the body of another. -/
def callsBare (widget : Widget) : Section → Bool
  | endsAt _ => false
  | text _ next => next.callsBare widget
  | call name _ next => Widget.ofName? name == some widget || next.callsBare widget
  | block _ _ body next => body.callsBare widget || next.callsBare widget

/-- The invocations that have a body, those in bodies included, each with its body. -/
def blocks : Section → List (String × Section)
  | endsAt _ => []
  | text _ next | call _ _ next => next.blocks
  | block name _ body next => (name, body) :: body.blocks ++ next.blocks

/-- Whether every call without a body of a widget that repeats is outside all bodies of that widget. -/
def apart (part : Section) : Bool :=
  part.blocks.all fun (name, body) =>
    match Widget.ofName? name with
    | some widget => !(widget.repeats && body.callsBare widget)
    | none => true

theorem apart_block {name : String} {offset : Nat} {body next : Section}
    (apart : (block name offset body next).apart = true) :
    (∀ widget, Widget.ofName? name = some widget → widget.repeats = true →
      body.callsBare widget = false) ∧ body.apart = true ∧ next.apart = true := by
  simp only [Section.apart, blocks, List.cons_append, List.all_cons, List.all_append,
    Bool.and_eq_true] at apart
  refine ⟨fun widget named repeats => ?_, apart.2.1, apart.2.2⟩
  simpa [named, repeats] using apart.1

variable {host : Host ε ω} {fresh left : Widget → ω → Nat} (winding : Winding host fresh left)
include winding

section
variable {widget : Widget} {bare : Widget → Bool} {pass : Bool → Stage ω → Rendered ε ω}

/-- A loop comes to its end within the passes that are left, and then none is left; the other widgets
have no more of them than each pass lets them keep. -/
theorem renderPasses_arrives
    (seen : ∀ stage : Stage ω, (pass false stage).Arrives (Fewer left bare stage.world))
    (unseen : ∀ stage : Stage ω, (pass true stage).Idle stage.world) (bound : Nat)
    (repeating : Bool) (stage : Stage ω) (apart : 0 < bound → bare widget = false)
    (enough : (if repeating then left widget stage.world else fresh widget stage.world) ≤ bound) :
    (renderPasses host widget pass bound repeating stage).Arrives fun world =>
      left widget world = 0 ∧
        ∀ other, other ≠ widget → bare other = false → left other world ≤ left other stage.world := by
  induction bound generalizing repeating stage with
  | zero =>
      rw [renderPasses_eq]
      refine Stage.ask_arrives fun again later called => ?_
      cases again with
      | false =>
          exact .of_idle (unseen _)
            ⟨(winding.call called).done rfl, fun other away _ => (winding.call called).others other away⟩
      | true =>
          have fewer := (winding.call called).pass rfl
          omega
  | succ bound ih =>
      rw [renderPasses_eq]
      refine Stage.ask_arrives fun again later called => ?_
      cases again with
      | false =>
          exact .of_idle (unseen _)
            ⟨(winding.call called).done rfl, fun other away _ => (winding.call called).others other away⟩
      | true =>
          have fewer := (winding.call called).pass rfl
          refine (seen { stage with world := later }).unlessTruncated fun stage' kept => ?_
          have own := kept widget (apart (Nat.succ_pos bound))
          refine (ih true stage' (fun _ => apart (Nat.succ_pos bound)) ?_).mono ?_
          · simp only [if_true]
            exact own.trans (Nat.le_of_lt_succ (fewer.trans_le enough))
          · rintro world ⟨done, others⟩
            refine ⟨done, fun other away notBare => (others other away notBare).trans ?_⟩
            exact (kept other notBare).trans ((winding.call called).others other away)

end

omit winding in
theorem fewer_refl (bare : Widget → Bool) (world : ω) : Fewer left bare world world :=
  fun _ _ => Nat.le_refl _

/-- The loop over a body uses up the passes of its own widget; the others have no more than each pass lets
them keep. -/
theorem renderBody_arrives {body : Section} {depth : Nat} {widget : Option Widget}
    (own : ∀ widget', widget = some widget' → widget'.repeats = true →
      body.callsBare widget' = false)
    (seen : ∀ stage : Stage ω, (body.renderPass host fresh depth false stage).Arrives
      (Fewer left (body.callsBare ·) stage.world)) (silent : Bool) (stage : Stage ω) :
    (body.renderBody host fresh depth silent widget stage).Arrives
      (Fewer left (body.callsBare ·) stage.world) := by
  have unseen := renderPass_silent host fresh depth body
  have silently : (body.renderPass host fresh depth true stage).Arrives
      (Fewer left (body.callsBare ·) stage.world) := .of_idle (unseen stage) (fewer_refl _ _)
  unfold renderBody
  cases widget with
  | none => exact silently
  | some widget =>
      dsimp only
      split
      · exact silently
      · refine (renderPasses_arrives winding seen unseen _ false stage
          (fun some => own widget rfl (winding.repeats some)) (Nat.le_refl _)).mono ?_
        rintro world ⟨done, others⟩ other notBare
        by_cases same : other = widget
        · rw [same, done]
          exact Nat.zero_le _
        · exact others other same notBare

/-- Where the calls without a body lie apart, every loop comes to its end within the passes ahead of it. -/
theorem render_arrives {part : Section} (apart : part.apart = true) (depth : Nat) (silent : Bool)
    (stage : Stage ω) :
    (part.render host fresh depth silent stage).Arrives
      (Fewer left (part.callsBare ·) stage.world) := by
  induction part generalizing depth silent stage with
  | endsAt stop =>
      cases stop with
      | unterminated offset rest =>
          exact Stage.write_arrives silent rest (fun _ => .cut _) fun _ _ => .cut _
      | cutShort => exact .cut stage
      | endOfText => exact .of_world .finished (fewer_refl _ _)
      | closing => exact .of_world .finished (fewer_refl _ _)
      | separator => exact .of_world .sectionBoundary (fewer_refl _ _)
  | text content next ih =>
      refine Stage.write_arrives silent content (fun _ => ih apart depth silent stage) ?_
      intro later written
      refine (ih apart depth silent _).mono fun world fewer widget notBare => ?_
      exact (fewer widget notBare).trans (winding.write written widget)
  | call name offset next ih =>
      have onward := ih apart depth silent (stage.noteName name offset)
      rw [Stage.noteName_world] at onward
      have further (world : ω) (fewer : Fewer left (next.callsBare ·) stage.world world) :
          Fewer left ((call name offset next).callsBare ·) stage.world world :=
        fun widget notBare => fewer widget (Bool.or_eq_false_iff.mp notBare).2
      rw [render_call]
      cases named : Widget.ofName? name with
      | none => exact onward.mono further
      | some widget =>
          dsimp only
          split
          · exact onward.mono further
          · refine Stage.ask_arrives fun again later called => ?_
            rw [Stage.noteName_world] at called
            refine (ih apart depth silent _).mono fun world fewer other notBare => ?_
            obtain ⟨own, notBare⟩ := Bool.or_eq_false_iff.mp notBare
            have away : other ≠ widget := by
              rintro rfl
              simp [named] at own
            exact (fewer other notBare).trans ((winding.call called).others other away)
  | block name offset body next body_ih ih =>
      obtain ⟨own, inner, outer⟩ := apart_block apart
      have seen (stage : Stage ω) : (body.renderPass host fresh depth false stage).Arrives
          (Fewer left (body.callsBare ·) stage.world) := by
        have pass := body_ih inner (depth + 1) false (stage.reportDepth (depth + 1))
        rwa [Stage.reportDepth_world] at pass
      have passes := renderBody_arrives winding own seen silent (stage.noteName name offset)
      rw [Stage.noteName_world] at passes
      rw [render_block]
      refine passes.unlessTruncated fun stage' fewer => ?_
      refine (ih outer depth silent stage').mono fun world further widget notBare => ?_
      obtain ⟨inside, outside⟩ := Bool.or_eq_false_iff.mp notBare
      exact (further widget outside).trans (fewer widget inside)

omit winding in
/-- The bodies of a section in which calls lie apart are such sections, and call no widget bare that they
belong to. -/
theorem apart_of_mem_blocks {part body : Section} {name : String} (apart : part.apart = true)
    (within : (name, body) ∈ part.blocks) :
    body.apart = true ∧ ∀ widget, Widget.ofName? name = some widget → widget.repeats = true →
      body.callsBare widget = false := by
  induction part with
  | endsAt stop => cases within
  | text content next ih => exact ih apart within
  | call other offset next ih => exact ih apart within
  | block other offset inner next inner_ih ih =>
      obtain ⟨own, inside, outside⟩ := apart_block apart
      simp only [blocks, List.cons_append, List.mem_cons, List.mem_append] at within
      rcases within with same | within | within
      · cases same
        exact ⟨inside, own⟩
      · exact inner_ih inside within
      · exact ih outside within

end Section

/-- A loop over a body in which calls lie apart makes no more visible passes than are ahead of it. -/
theorem Winding.turns {host : Host ε ω} {fresh left : Widget → ω → Nat}
    (winding : Winding host fresh left) {layout : Layout} {widget : Widget} {start : Place}
    (bound : Nat) (repeating : Bool) (progress : Progress ω) (positive : 0 < progress.depth)
    (apart : (Section.read layout true start).1.apart = true)
    (own : 0 < bound → (Section.read layout true start).1.callsBare widget = false)
    (enough : (if repeating then left widget progress.world else fresh widget progress.world) ≤ bound) :
    ∃ passes ≤ bound, ∃ outcome,
      Turns host layout widget start repeating progress passes outcome := by
  induction bound generalizing repeating progress with
  | zero =>
      rcases called : host.call widget repeating progress.world with ⟨failure | again, world⟩
      · exact ⟨0, Nat.le_refl 0, _, .refused called⟩
      · cases again with
        | false => exact ⟨0, Nat.le_refl 0, turns_silent layout start positive called⟩
        | true =>
            have fewer := (winding.call called).pass rfl
            omega
  | succ bound ih =>
      rcases called : host.call widget repeating progress.world with ⟨failure | again, world⟩
      · exact ⟨0, Nat.zero_le _, _, .refused called⟩
      · cases again with
        | false => exact ⟨0, Nat.zero_le _, turns_silent layout start positive called⟩
        | true =>
            have fewer := (winding.call called).pass rfl
            have here : 0 < ({ progress with world } : Progress ω).depth := positive
            obtain ⟨some, kept⟩ := Section.render_arrives winding apart (progress.depth + 1) false
              (({ progress with world } : Progress ω).stage.reportDepth (progress.depth + 1))
            rw [Stage.reportDepth_world] at kept
            rcases (pass_accord host layout false start here).complete fresh with none | ⟨fuel, agrees⟩
            · exact absurd none some
            · rcases agrees.elim with ⟨stage, gone, rendered⟩ | ⟨failure, broken, gone, _⟩
              · by_cases truncated : (Section.read layout true start).1.ending =
                  .truncated
                · exact ⟨1, Nat.le_add_left 1 bound, _, .cut called (truncated ▸ gone)⟩
                · have fewer' := kept _ _ rendered truncated widget (own (Nat.succ_pos bound))
                  obtain ⟨passes, within, outcome, turns⟩ := ih true
                    (progress.backAt (Section.read layout true start).2 stage)
                    positive (fun _ => own (Nat.succ_pos bound))
                    (fewer'.trans (Nat.le_of_lt_succ (fewer.trans_le enough)))
                  exact ⟨passes + 1, Nat.succ_le_succ within, outcome,
                    .pass called gone truncated turns⟩
              · exact ⟨1, Nat.le_add_left 1 bound, _, .failed called gone⟩

end

section
variable {ε σ : Type}

/-- The visible passes that a loop of the widget can make which starts now. -/
def Context.passesAhead (context : Context) (widget : Widget) (scene : Scene σ) : Nat :=
  match widget with
  | .files =>
      ((context.directory.bind scene.arena.get?).map fun snapshot =>
        snapshot.comingEntries.length).getD 0
  | .pwd | .root => context.levels scene.arena
  | _ => 0

/-- The visible passes that a loop of the widget can still make which has already made one. -/
def Context.passesLeft (context : Context) (widget : Widget) (scene : Scene σ) : Nat :=
  match widget with
  | .files =>
      ((context.directory.bind scene.arena.get?).map fun snapshot =>
        if snapshot.cursor = .unset then 0 else snapshot.comingEntries.length).getD 0
  | .pwd => (context.directory.map scene.arena.stepsDown).getD 0
  | .root => scene.rootSteps
  | _ => 0

variable {sink : Sink ε σ} {context : Context}

/-- The passes that `files` has left are told without the marks. -/
theorem passesLeft_files {scene later : Scene σ} (same : later.arena.unmarked = scene.arena.unmarked) :
    context.passesLeft .files later = context.passesLeft .files scene := by
  have seen (arena : Arena) : context.directory.bind arena.unmarked.get? =
      (context.directory.bind arena.get?).map Snapshot.unmarked := by
    cases context.directory with
    | none => rfl
    | some id => exact arena.get?_unmarked id
  have alike := (seen later.arena).symm.trans ((congrArg (context.directory.bind ·.get?) same).trans
    (seen scene.arena))
  have count (found : Option Snapshot) :
      found.map (fun snapshot =>
        if snapshot.cursor = .unset then 0 else snapshot.comingEntries.length) =
      (found.map Snapshot.unmarked).map fun snapshot =>
        if snapshot.cursor = .unset then 0 else snapshot.comingEntries.length := by
    cases found <;> rfl
  unfold Context.passesLeft
  dsimp only
  rw [count, alike, ← count]

/-- The passes that a widget has left are spared by all others. -/
theorem Spares.passesLeft {widget other : Widget} {scene later : Scene σ}
    (spares : Spares context widget scene later) (away : other ≠ widget) :
    context.passesLeft other later ≤ context.passesLeft other scene := by
  refine Nat.le_of_eq ?_
  cases other with
  | files => exact passesLeft_files (spares.cursors away.symm)
  | pwd =>
      refine congrArg (Option.getD · 0) (congrArg (Option.map · _) (funext fun id => ?_))
      exact Arena.stepsDown_congr spares.rungs (spares.marks away.symm)
  | root => exact spares.steps away.symm
  | _ => rfl

theorem answerFiles_runsDown {repeating again : Bool} {scene later : Scene σ}
    (answered : (answerFiles context repeating : Action ε σ Bool) scene = (.ok again, later)) :
    RunsDown context.passesAhead context.passesLeft .files repeating again scene later := by
  have spares := answerFiles_spares (ε := ε) context repeating scene
  rw [answered] at spares
  rcases answerFiles_cases (ε := ε) context repeating scene with
    ⟨still, exhausted⟩ | ⟨id, snapshot, directory, found, unfinished, moved⟩
  · cases still.symm.trans answered
    refine ⟨fun _ _ => Nat.le_refl _, nofun, fun _ => ?_⟩
    cases seen : context.directory.bind scene.arena.get? with
    | none => simp [Context.passesLeft, seen]
    | some snapshot => simp [Context.passesLeft, seen, (exhausted snapshot seen).2]
  · cases moved.symm.trans answered
    have seen : (context.directory.bind scene.arena.get?) = some snapshot := by
      rw [directory, Option.bind_some, found]
    have seen' : (context.directory.bind (scene.arena.advance id).2.get?) = some snapshot.advance.2 := by
      rw [directory, Option.bind_some, Arena.found_advance found]
    refine ⟨fun _ away => spares.passesLeft away, fun again => ?_, fun again => ?_⟩
    · cases coming : snapshot.comingEntries with
      | nil => simp [Snapshot.advance_of_nil coming] at again
      | cons entry rest =>
          obtain ⟨_, _, behind⟩ := Snapshot.advance_of_cons coming
          have ahead : (if repeating then context.passesLeft .files scene
              else context.passesAhead .files scene) = rest.length + 1 := by
            cases repeating with
            | true => simp [Context.passesLeft, seen, unfinished rfl, coming]
            | false => simp [Context.passesAhead, seen, coming]
          rw [ahead]
          simp only [Context.passesLeft, seen', Option.map_some, Option.getD_some, behind]
          split <;> omega
    · cases coming : snapshot.comingEntries with
      | nil => simp [Context.passesLeft, seen', Snapshot.advance_of_nil coming, Snapshot.resetCursor]
      | cons entry rest =>
          exact absurd (Snapshot.advance_of_cons coming).1 (by simp [again])

theorem answerPwd_runsDown {repeating again : Bool} {scene later : Scene σ}
    (answered : answerPwd sink context repeating scene = (.ok again, later)) :
    RunsDown context.passesAhead context.passesLeft .pwd repeating again scene later := by
  have spares := answerPwd_spares sink context repeating scene
  rw [answered] at spares
  cases directory : context.directory with
  | none =>
      cases (answerPwd_none directory repeating scene).symm.trans answered
      exact ⟨fun _ _ => Nat.le_refl _, nofun, fun _ => by simp [Context.passesLeft, directory]⟩
  | some id =>
      rw [answerPwd_eq directory] at answered
      have ahead : (if repeating then scene.arena else scene.arena.markWay id).stepsDown id ≤
          if repeating then context.passesLeft .pwd scene else context.passesAhead .pwd scene := by
        cases repeating with
        | true => simp [Context.passesLeft, directory]
        | false =>
            simpa [Context.passesAhead, Context.levels, directory] using
              scene.arena.stepsDown_markWay_le id
      generalize (if repeating then scene.arena else scene.arena.markWay id) = arena
        at answered ahead
      rcases next : arena.nextSegment id with ⟨_ | name, arena'⟩
      · rw [next] at answered
        cases answered
        refine ⟨fun _ away => spares.passesLeft away, nofun, fun _ => ?_⟩
        simpa [Context.passesLeft, directory] using Arena.stepsDown_of_none next
      · rw [next] at answered
        obtain ⟨rfl, written⟩ := writeText_thenAsks answered
        obtain ⟨out, kept⟩ := Action.onlyWrites_writeText sink name { scene with arena := arena' }
        rw [written] at kept
        subst kept
        refine ⟨fun _ away => spares.passesLeft away, fun _ => ?_, (absurd · Bool.false_ne_true.symm)⟩
        refine lt_of_lt_of_le ?_ ahead
        simpa [Context.passesLeft, directory] using Arena.stepsDown_lt next

theorem answerRoot_runsDown {repeating again : Bool} {scene later : Scene σ}
    (answered : answerRoot sink context repeating scene = (.ok again, later)) :
    RunsDown context.passesAhead context.passesLeft .root repeating again scene later := by
  have spares := answerRoot_spares sink context repeating scene
  rw [answered] at spares
  have ahead : (if repeating then context.passesLeft .root scene else context.passesAhead .root scene) =
      if repeating then scene.rootSteps else context.levels scene.arena := rfl
  rw [answerRoot_eq] at answered
  cases steps : (if repeating then scene.rootSteps else context.levels scene.arena) with
  | zero =>
      rw [steps] at answered
      cases answered
      exact ⟨fun _ away => spares.passesLeft away, nofun, fun _ => rfl⟩
  | succ steps' =>
      rw [steps] at answered
      obtain ⟨rfl, written⟩ := writeText_thenAsks answered
      obtain ⟨out, kept⟩ := Action.onlyWrites_writeText sink ".." { scene with rootSteps := steps' }
      rw [written] at kept
      subst kept
      refine ⟨fun _ away => spares.passesLeft away, fun _ => ?_, nofun⟩
      rw [ahead, steps]
      exact Nat.lt_succ_self steps'

/-- The loops of a template run down. -/
theorem winding_scene (sink : Sink ε σ) (context : Context) :
    Winding (sceneHost sink context) context.passesAhead context.passesLeft where
  once widget _ once := by cases widget <;> first | rfl | cases once
  write {bytes scene later} written widget := by
    obtain ⟨out, kept⟩ := Action.onlyWrites_writeBytes sink bytes scene
    change Action.writeBytes sink bytes scene = _ at written
    rw [written] at kept
    subst kept
    cases widget <;> exact Nat.le_refl _
  call {widget repeating again scene later} answered := by
    change answer sink context widget repeating scene = _ at answered
    by_cases once : widget.repeats = false
    · have spares := answer_spares sink context widget repeating scene
      have declined := (quiet_answer sink context once repeating).declines scene
      rw [answered] at spares declined
      refine ⟨fun _ away => spares.passesLeft away,
        fun asked => absurd (congrArg Except.ok asked) declined, fun _ => ?_⟩
      cases widget <;> first | rfl | cases once
    · cases widget with
      | files => exact answerFiles_runsDown answered
      | pwd => exact answerPwd_runsDown answered
      | root => exact answerRoot_runsDown answered
      | _ => exact absurd rfl once

/-- Where no call without a body of `files`, `pwd` or `root` lies in a body of the same widget, an expansion
ends, whatever the state of the walks that it starts from. Each loop of `files` makes no more visible
passes than there are entries ahead of the cursor, and each of `pwd` or `root` no more than there are
levels below the root. -/
theorem expand_within_passes (sink : Sink ε σ) (context : Context) (suppressed : Bool)
    (template : Template) (scene : Scene σ) (apart : template.upcoming.1.apart = true) :
    (∃ fuel result after later,
      template.expand (sceneHost sink context) fuel suppressed scene = some (result, after, later) ∧
      template.renderUpcoming (sceneHost sink context) context.passesAhead suppressed scene =
        some (result, ⟨after.diagnostics, later⟩)) ∧
    ∀ name body widget, (name, body) ∈ template.upcoming.1.blocks → Widget.ofName? name = some widget →
      ∀ (start : Place) (progress : Progress (Scene σ)), 0 < progress.depth →
        (Section.read template.layout true start).1 = body →
        ∃ passes ≤ context.passesAhead widget progress.world, ∃ outcome,
          Turns (sceneHost sink context) template.layout widget start false progress passes outcome ∧
            ∃ fuel, expandBody (sceneHost sink context) template.layout false fuel (some widget) false
              start progress = outcome := by
  have winding := winding_scene sink context
  constructor
  · have arrives := Section.render_arrives winding apart (template.depth + 1) suppressed
      ((Stage.mk template.diagnostics scene).reportDepth (template.depth + 1))
    obtain ⟨⟨result, stage⟩, rendered⟩ := Option.ne_none_iff_exists'.mp arrives.1
    obtain ⟨fuel, after, ended, diagnostics⟩ := expand_of_renderUpcoming _ rendered
    exact ⟨fuel, result, after, stage.world, ended, by rw [diagnostics]; exact rendered⟩
  · rintro name body widget within named start progress positive rfl
    obtain ⟨inner, own⟩ := Section.apart_of_mem_blocks apart within
    obtain ⟨passes, few, outcome, turns⟩ := winding.turns (context.passesAhead widget progress.world)
      false progress positive inner (fun some => own widget named (winding.repeats some))
      (Nat.le_refl _)
    exact ⟨passes, few, outcome, turns, turns.expandBody⟩

/-- Loops of `files` in one another, with a call without a body behind them. -/
theorem expand_within_passes_nested :
    let template := withLayout "@(files)\x7b@(files)\x7b@(filename);\x7d\x7d@(files)" .bodyOnly
    template.upcoming.1.apart = true ∧
      ∃ fuel result after later, template.expand (sceneHost Tray.sink ⟨.stock, 0, some 0, none⟩) fuel
        false ⟨⟨[⟨none, none, "", [], [⟨"a", 1, false⟩, ⟨"b", 1, false⟩], .unset, none⟩]⟩, 0,
          .empty .empty none⟩ = some (result, after, later) := by
  intro template
  have apart : template.upcoming.1.apart = true := by decide +kernel
  obtain ⟨⟨fuel, result, after, later, ended, _⟩, _⟩ := expand_within_passes Tray.sink
    ⟨.stock, 0, some 0, none⟩ false template
    ⟨⟨[⟨none, none, "", [], [⟨"a", 1, false⟩, ⟨"b", 1, false⟩], .unset, none⟩]⟩, 0,
      .empty .empty none⟩ apart
  exact ⟨apart, fuel, result, after, later, ended⟩

end
end SiteIndex.Template

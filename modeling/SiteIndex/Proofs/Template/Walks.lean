import SiteIndex.Proofs.Template.Arrivals
import SiteIndex.Proofs.Template.Quiet
import SiteIndex.Proofs.Template.Winding

/-!
Walks of `files`, `pwd` and `root`. Each of them keeps where it has come to in a place of its own, and no
other widget goes there. So a body that does not call the widget leaves its walk where it is, whatever loops
lie in it, and the loop goes on from there.
-/

namespace SiteIndex.Template

open SiteIndex.Listing SiteIndex.Text

section
variable {ε σ : Type}

/-- The walk of the widget is where it was, and goes the same way. -/
structure Stays (context : Context) (widget : Widget) (before later : Scene σ) : Prop where
  still : later.arena.still context.directory = before.arena.still context.directory
  cursors : widget = .files → later.arena.unmarked = before.arena.unmarked
  marks : widget = .pwd → later.arena.markOf = before.arena.markOf
  steps : widget = .root → later.rootSteps = before.rootSteps

variable {sink : Sink ε σ} {context : Context}

theorem Stays.refl (widget : Widget) (scene : Scene σ) : Stays context widget scene scene :=
  ⟨rfl, fun _ => rfl, fun _ => rfl, fun _ => rfl⟩

theorem Stays.trans {widget : Widget} {before between later : Scene σ}
    (stays : Stays context widget before between) (further : Stays context widget between later) :
    Stays context widget before later :=
  ⟨further.still.trans stays.still, fun own => (further.cursors own).trans (stays.cursors own),
    fun own => (further.marks own).trans (stays.marks own),
    fun own => (further.steps own).trans (stays.steps own)⟩

theorem Stays.rungs {widget : Widget} {before later : Scene σ}
    (stays : Stays context widget before later) : later.arena.rungs = before.arena.rungs :=
  Arena.rungs_of_still stays.still

theorem Spares.stays {widget other : Widget} {before later : Scene σ}
    (spares : Spares context widget before later) (away : other ≠ widget) :
    Stays context other before later :=
  ⟨spares.still, fun own => spares.cursors (own ▸ away.symm), fun own => spares.marks (own ▸ away.symm),
    fun own => spares.steps (own ▸ away.symm)⟩

/-- Nothing but the widget itself takes its walk further. -/
theorem bearing_stays (sink : Sink ε σ) (widget : Widget) (origin : Scene σ) :
    Bearing (sceneHost sink context) (· ≠ widget) (Stays context widget origin) fun _ => True where
  write := by
    intro scene bytes stays
    obtain ⟨out, kept⟩ := Action.onlyWrites_writeBytes sink bytes scene
    change Leaves _ _ (Action.writeBytes sink bytes scene)
    revert kept
    rcases Action.writeBytes sink bytes scene with ⟨failure | _, later⟩
    · exact fun _ => trivial
    · rintro rfl
      exact stays.trans ⟨rfl, fun _ => rfl, fun _ => rfl, fun _ => rfl⟩
  call := by
    intro scene other repeating away stays
    have spares := answer_spares sink context other repeating scene
    change Leaves _ _ (answer sink context other repeating scene)
    revert spares
    rcases answer sink context other repeating scene with ⟨failure | again, later⟩
    · exact fun _ => trivial
    · exact fun spares => stays.trans (spares.stays away.symm)

/-- A body that a loop of the widget can go through: a brace closes it, it does not call the widget, and each
pass over it has a result, wherever the walks have come to. -/
structure Fits (sink : Sink ε σ) (context : Context) (layout : Layout) (widget : Widget) (start : Place)
    (origin : Progress (Scene σ)) : Prop where
  closed : (Section.read layout true start).1.lastStop = .closing
  foreign : ∀ name ∈ (Section.read layout true start).1.names, Widget.ofName? name ≠ some widget
  ends : ∀ noted, origin.Beside noted →
    noted.world.arena.still context.directory = origin.world.arena.still context.directory →
      ∃ fuel, expandItems (sceneHost sink context) layout false fuel "" (noted.moveTo start).enter ≠
        .unfinished

/-- Where calls lie apart in a closed body, it fits every widget that it does not call. -/
theorem Fits.of_apart {layout : Layout} {widget : Widget} {start : Place} {origin : Progress (Scene σ)}
    (positive : 0 < origin.depth) (closed : (Section.read layout true start).1.lastStop = .closing)
    (foreign : ∀ name ∈ (Section.read layout true start).1.names, Widget.ofName? name ≠ some widget)
    (apart : (Section.read layout true start).1.apart = true) :
    Fits sink context layout widget start origin where
  closed := closed
  foreign := foreign
  ends noted beside _ := by
    have here : 0 < noted.depth := beside.depth ▸ positive
    have arrives := Section.render_arrives (winding_scene sink context) apart (noted.depth + 1) false
      (noted.stage.reportDepth (noted.depth + 1))
    rcases (pass_accord (sceneHost sink context) layout false start here).complete
      context.passesAhead with none | ⟨fuel, agrees⟩
    · exact absurd none arrives.some
    · exact ⟨fuel, agrees.finished⟩

/-- A walk that goes through items. It is `Ready` for those that are still ahead of it, and as long as there
are any, an answer of its widget takes it past the first of them, and asks for a pass. -/
structure Walk {α : Type} (sink : Sink ε σ) (context : Context) (widget : Widget)
    (Ready : (repeating : Bool) → (items : List α) → Scene σ → Prop)
    (Said : α → (ahead : List α) → Scene σ → Scene σ → Prop) : Prop where
  stays : ∀ {items before later}, Ready true items before → Stays context widget before later →
    Ready true items later
  last : ∀ {repeating scene}, Ready repeating [] scene →
    ∃ later, answer sink context widget repeating scene = (.ok false, later)
  next : ∀ {repeating item ahead scene}, Ready repeating (item :: ahead) scene →
    (∃ later, answer sink context widget repeating scene = (.ok true, later) ∧
        Said item ahead scene later ∧ Ready true ahead later) ∨
      ∃ failure later, answer sink context widget repeating scene = (.error failure, later)

/-- What a walk goes along is there after each answer. -/
theorem still_of_answer {widget : Widget} {repeating : Bool} {scene later : Scene σ}
    {result : Except ε Bool} (answered : answer sink context widget repeating scene = (result, later)) :
    later.arena.still context.directory = scene.arena.still context.directory := by
  have spares := answer_spares sink context widget repeating scene
  rw [answered] at spares
  exact spares.still

variable {α : Type} {widget : Widget} {Ready : Bool → List α → Scene σ → Prop}
  {Said : α → List α → Scene σ → Scene σ → Prop}
  {Passed : α → List α → Progress (Scene σ) → Progress (Scene σ) → Prop}
  {Open : σ → Prop} {Shut : Prop} {layout : Layout} {start : Place} {origin : Progress (Scene σ)}

/-- A loop over such a body goes through all items that are ahead of its walk, each with one pass, unless a
write fails. -/
theorem Walk.rounds (walk : Walk sink context widget Ready Said)
    (kept : Kept sink context (fun scene => Open scene.out) fun _ => Shut)
    (fits : Fits sink context layout widget start origin) (positive : 0 < origin.depth)
    (passes : ∀ {item ahead before entered between fuel}, 0 < entered.depth →
      Said item ahead before entered.world → Ready true ahead entered.world →
      expandItems (sceneHost sink context) layout false fuel "" (entered.moveTo start).enter =
        .ended .finished between →
      Stays context widget entered.world between.world → Passed item ahead entered between)
    {items : List α} {repeating : Bool} {progress : Progress (Scene σ)} (beside : origin.Beside progress)
    (still : progress.world.arena.still context.directory = origin.world.arena.still context.directory)
    (opened : Open progress.world.out) (ready : Ready repeating items progress.world) :
    (∃ final, Rounds (sceneHost sink context) layout widget start Said Passed repeating items progress
        (.ended .finished final) ∧ origin.Beside final ∧
        final.world.arena.still context.directory = origin.world.arena.still context.directory ∧
        Open final.world.out) ∨
      Shut ∧ ∃ failure broken, Rounds (sceneHost sink context) layout widget start Said Passed repeating
        items progress (.failed failure broken) := by
  have ending : (Section.read layout true start).1.ending = .finished := by
    rw [Section.ending, fits.closed, Stop.ending]
  have calls : (Section.read layout true start).1.Calls (· ≠ widget) :=
    fun name within other named same => fits.foreign name within (named.trans (congrArg some same))
  induction items generalizing repeating progress with
  | nil =>
      obtain ⟨later, answered⟩ := walk.last ready
      have here : 0 < ({ progress with world := later } : Progress (Scene σ)).depth :=
        beside.depth ▸ positive
      obtain ⟨fuel, diagnostics, gone⟩ := silent_pass (sceneHost sink context) layout start here
      rw [ending] at gone
      have called := kept.bearing.call widget repeating trivial opened
      change Leaves _ _ (answer sink context widget repeating progress.world) at called
      rw [answered] at called
      exact .inl ⟨_, .done answered gone rfl, ⟨beside.depth, beside.rewindPoint⟩,
        (still_of_answer answered).trans still, called⟩
  | cons item ahead ih =>
      have called := kept.bearing.call widget repeating trivial opened
      change Leaves _ _ (answer sink context widget repeating progress.world) at called
      rcases walk.next ready with ⟨later, answered, said, ready⟩ | ⟨failure, later, answered⟩
      · rw [answered] at called
        have entered : origin.Beside { progress with world := later } :=
          ⟨beside.depth, beside.rewindPoint⟩
        have still := (still_of_answer answered).trans still
        have here : 0 < ({ progress with world := later } : Progress (Scene σ)).depth :=
          beside.depth ▸ positive
        obtain ⟨fuel, result⟩ := fits.ends _ entered still
        rcases visible_pass (kept.bearing.and (bearing_stays sink widget later)) fits.closed calls here
          ⟨called, .refl widget later⟩ result with
          ⟨stage, gone, opened, stays⟩ | ⟨failure, broken, gone, shut, _⟩
        · have passed := passes here said ready gone stays
          have between : origin.Beside (({ progress with world := later } : Progress _).backAt
              (Section.read layout true start).2 stage) := ⟨beside.depth, beside.rewindPoint⟩
          rcases ih between (stays.still.trans still) opened (walk.stays ready stays) with ⟨final, rounds, further⟩ | ⟨shut, failure, broken, rounds⟩
          · exact .inl ⟨final, .pass answered said gone passed rounds, further⟩
          · exact .inr ⟨shut, failure, broken, .pass answered said gone passed rounds⟩
        · exact .inr ⟨shut, failure, broken, .broken answered said gone⟩
      · rw [answered] at called
        exact .inr ⟨called, failure, _, .refused answered⟩

end
end SiteIndex.Template

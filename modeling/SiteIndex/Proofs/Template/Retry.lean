import SiteIndex.Proofs.Template.Arrivals
import SiteIndex.Proofs.Template.Unwinding

/-!
What comes of expanding a section once more after a write has failed in it. Rewinding leads back to
the beginning of the section, but what is read from there on is read as if it lay in a body, in which
a brace ends the expansion and a separator is text. So the depth is never what it is in a new template
at the same place, and the text and the ending are only if the section reads the same in a body.
-/

namespace SiteIndex.Template

open SiteIndex.Text

/-- A new template that stands where this one does. -/
def anew (template : Template) : Template :=
  { withLayout template.source template.layout with position := template.position }

/-- What lies ahead of the template reads in a body as it reads outside. -/
def ReadsAlike (template : Template) : Prop :=
  (Section.read template.layout true template.standing).1 =
    (Section.read template.layout false template.standing).1

instance (template : Template) : Decidable template.ReadsAlike :=
  inferInstanceAs (Decidable (_ = _))

section
variable {ε ω : Type} {host : Host ε ω} {Whole : ω → Prop} {size : ω → Nat}

/-- Templates with the same ahead of them come to the same, on whatever level they are. -/
theorem shown_renderUpcoming (host : Host ε ω) {first second : Template}
    (alike : first.upcoming.1 = second.upcoming.1) (limit : Limit ω) (suppressed : Bool)
    (world : ω) :
    (first.renderUpcoming host limit suppressed world).shown =
      (second.renderUpcoming host limit suppressed world).shown := by
  unfold renderUpcoming
  rw [alike]
  apply Section.shown_render
  rw [Stage.reportDepth_world, Stage.reportDepth_world]

theorem expand_alike {first second after : Template} (alike : first.upcoming.1 = second.upcoming.1)
    {fuel : Nat} {suppressed : Bool} {world later : ω} {result : Except ε Ending}
    (ended : first.expand host fuel suppressed world = some (result, after, later)) :
    ∃ fuel after, second.expand host fuel suppressed world = some (result, after, later) := by
  have shown := shown_renderUpcoming host alike (fun _ _ => fuel) suppressed world
  rw [(renderUpcoming_of_expand host ended).1] at shown
  obtain ⟨⟨_, stage⟩, rendered, reached⟩ := Option.map_eq_some_iff.mp shown.symm
  obtain ⟨rfl, rfl⟩ := Prod.mk.inj reached
  obtain ⟨fuel, after, ended, _⟩ := expand_of_renderUpcoming host rendered
  exact ⟨fuel, after, ended⟩

/-- What is rendered tells whether the section has been read as if it lay in a body. -/
theorem Section.ahead_eq_of_rendered (gauge : Gauge host Whole size) (limit : Limit ω)
    (layout : Layout) (place : Place) {depth : Nat} {stage stage' short long : Stage ω}
    (whole : Whole stage'.world) (same : stage.world = stage'.world)
    (first : (ahead layout 2 place).1.render host limit depth false stage =
      some (.ok (ahead layout 2 place).1.ending, short))
    (second : (ahead layout 1 place).1.render host limit 1 false stage' =
      some (.ok (ahead layout 1 place).1.ending, long))
    (endings : (ahead layout 2 place).1.ending = (ahead layout 1 place).1.ending)
    (sizes : size short.world = size long.world) :
    (ahead layout 1 place).1 = (ahead layout 2 place).1 := by
  rcases ahead_outside layout place with alike | longer | stop
  · exact alike
  · have shown := shown_render host limit (ahead layout 2 place).1 depth 1 false same
    rw [first] at shown
    obtain ⟨⟨_, atOne⟩, rendered, reached⟩ := Option.map_eq_some_iff.mp shown.symm
    obtain ⟨rfl, world⟩ := Prod.mk.inj reached
    have uncut : (ahead layout 2 place).1.ending ≠ .truncated := by
      unfold ending
      rw [longer.lastStop]
      nofun
    have more := render_longer gauge limit longer 1 whole (by simpa using uncut) rendered second
    rw [world, sizes] at more
    exact absurd more (Nat.lt_irrefl _)
  · exfalso
    have inside := lastStop_inside layout Nat.one_lt_two place
    unfold ending at endings
    rw [stop] at endings
    revert inside endings
    cases (ahead layout 2 place).1.lastStop <;> simp [Stop.ending]

end

section
variable {ε τ : Type} {sink : Sink ε τ} {context : Context}

/-- A sink that keeps everything measures what an expansion writes. -/
theorem gauge_collects (sink : Sink ε τ) (context : Context) (written : τ → ByteArray) :
    Gauge (sceneHost sink context) (fun scene => sink.Collects written scene.out)
      (fun scene => (written scene.out).size) where
  obliging least := by
    refine Kept.obliging
      { write := fun {scene} bytes whole => ?_, moves := fun _ _ whole _ => whole,
        rootSteps := fun _ whole => whole }
    unfold Action.writeBytes
    by_cases none : bytes.isEmpty = true
    · rw [if_pos none]
      exact whole
    · obtain ⟨out, taken, kept, still⟩ := whole.1.write bytes
      rw [if_neg none, taken]
      refine ⟨still, ?_⟩
      dsimp only
      rw [kept, ByteArray.size_append]
      exact Nat.le_add_right_of_le whole.2
  written := by
    intro scene bytes collects
    change (written (Action.writeBytes sink bytes scene).2.out).size = _
    unfold Action.writeBytes
    by_cases none : bytes.isEmpty = true
    · rw [if_pos none]
      have empty : bytes.size = 0 := by simpa [ByteArray.isEmpty] using none
      rw [empty, Nat.add_zero]
    · obtain ⟨out, taken, kept, still⟩ := collects.write bytes
      rw [if_neg none, taken]
      dsimp only
      rw [kept, ByteArray.size_append]

/-- An expansion into a sink that keeps everything renders what lies ahead, and stays on the level on
which it has been begun. -/
theorem renderUpcoming_collected {written : τ → ByteArray} {fuel : Nat} {template after : Template}
    {scene later : Scene τ} {result : Except ε Ending}
    (collects : sink.Collects written scene.out)
    (ended : template.expand (sceneHost sink context) fuel false scene =
      some (result, after, later)) :
    result = .ok template.upcoming.1.ending ∧ after.depth = template.depth ∧
      template.upcoming.1.render (sceneHost sink context) (fun _ _ => fuel) (template.depth + 1)
          false ((Stage.mk template.diagnostics scene).reportDepth (template.depth + 1)) =
        some (.ok template.upcoming.1.ending, ⟨after.diagnostics, later⟩) := by
  obtain ⟨rendered, arrived⟩ := renderUpcoming_of_expand _ ended
  have obliging := (gauge_collects sink context written).obliging 0
  have whole : sink.Collects written
      ((Stage.mk template.diagnostics scene).reportDepth (template.depth + 1)).world.out := by
    rwa [Stage.reportDepth_world]
  obtain ⟨⟨ending, rfl⟩, _⟩ := Section.render_holds obliging _ _ _ false
    ⟨whole, Nat.zero_le _⟩ _ _ rendered
  obtain ⟨rfl, same⟩ := arrived ending rfl
  have level : after.depth = (template.arrived after.diagnostics).depth :=
    congrArg Template.depth same
  exact ⟨rfl, level, rendered⟩

/-- Where a failure has struck, what lies ahead after rewinding is what lay ahead before, read as if
it lay in a body. -/
theorem upcoming_rewind {ω : Type} {host : Host ε ω} {fuel : Nat} {template broken : Template}
    {world left : ω} {failure : ε} (outermost : template.depth = 0)
    (failed : template.expand host fuel false world = some (.error failure, broken, left)) :
    0 < broken.depth ∧
      broken.rewind.upcoming = Section.ahead template.layout 2 template.standing := by
  obtain ⟨source, layout, memory, deep⟩ := expand_failed host outermost failed
  refine ⟨deep, ?_⟩
  have stands : broken.rewind.standing = template.standing := standing_of_offset source memory
  have level : 1 < broken.rewind.depth + 1 := Nat.succ_lt_succ deep
  have layout : broken.rewind.layout = template.layout := layout
  unfold upcoming
  rw [stands, layout, Section.ahead_inside _ level]

/-- After a failed write the depth is lost for good. A section that is rewound and expanded once more
comes to the text and the ending of a new expansion if and only if it reads in a body as it reads
outside. -/
theorem retry_after_failure {ε' σ : Type} {broken : Template} {failing : Sink ε' σ}
    {before : Context} {fuel : Nat} {template : Template} {scene left : Scene σ} {failure : ε'}
    (outermost : template.depth = 0)
    (failed : template.expand (sceneHost failing before) fuel false scene =
      some (.error failure, broken, left))
    (context : Context) {written : τ → ByteArray} {fresh : Scene τ}
    (collects : sink.Collects written fresh.out) :
    0 < broken.depth ∧
    (∀ fuel result after later,
      broken.rewind.expand (sceneHost sink context) fuel false fresh =
          some (result, after, later) →
        after.depth = broken.depth ∧
        ∀ fuel' result' after' later',
          template.anew.expand (sceneHost sink context) fuel' false fresh =
              some (result', after', later') →
            after'.depth = 0 ∧
            (result = result' ∧ written later.out = written later'.out ↔ template.ReadsAlike)) ∧
    (template.ReadsAlike → ∀ result later,
      (∃ fuel after, broken.rewind.expand (sceneHost sink context) fuel false fresh =
          some (result, after, later)) ↔
        ∃ fuel after, template.anew.expand (sceneHost sink context) fuel false fresh =
          some (result, after, later)) := by
  obtain ⟨deep, inBody⟩ := upcoming_rewind outermost failed
  have upcoming (alike : template.ReadsAlike) :
      broken.rewind.upcoming.1 = template.anew.upcoming.1 := by
    rw [inBody]
    exact alike
  refine ⟨deep, fun fuel result after later retried => ?_, fun alike result later => ?_⟩
  · refine ⟨(renderUpcoming_collected collects retried).2.1,
      fun fuel' result' after' later' begun => ?_⟩
    refine ⟨(renderUpcoming_collected collects begun).2.1, fun ⟨endings, texts⟩ => ?_,
      fun alike => ?_⟩
    · obtain ⟨rfl, _, first⟩ := renderUpcoming_collected collects
        (expand_mono _ false _ fresh (Nat.le_max_left fuel fuel') retried)
      obtain ⟨rfl, _, second⟩ := renderUpcoming_collected collects
        (expand_mono _ false _ fresh (Nat.le_max_right fuel fuel') begun)
      rw [inBody] at first endings
      refine (Section.ahead_eq_of_rendered (gauge_collects sink context written) _ template.layout
        template.standing ?_ ?_ first second (Except.ok.inj endings)
        (congrArg ByteArray.size texts)).symm
      · rwa [Stage.reportDepth_world]
      · rw [Stage.reportDepth_world, Stage.reportDepth_world]
    · obtain ⟨_, _, ended⟩ := expand_alike (upcoming alike) retried
      cases expand_unique _ false _ fresh ended begun
      exact ⟨rfl, rfl⟩
  · constructor
    · rintro ⟨_, _, ended⟩
      exact expand_alike (upcoming alike) ended
    · rintro ⟨_, _, ended⟩
      exact expand_alike (upcoming alike).symm ended

theorem retry_after_failure_brace :
    ∃ broken left after later after' later',
      (withLayout "a\x7db" .bodyOnly).expand (sceneHost Tray.sink ⟨.stock, 0, none, none⟩) 3 false
          ⟨⟨[]⟩, 0, .empty .empty (some 0)⟩ = some (.error .full, broken, left) ∧
        broken.rewind.expand (sceneHost Tray.sink ⟨.stock, 0, none, none⟩) 3 false
          ⟨⟨[]⟩, 0, .empty .empty none⟩ = some (.ok .finished, after, later) ∧
        (withLayout "a\x7db" .bodyOnly).anew.expand (sceneHost Tray.sink ⟨.stock, 0, none, none⟩) 3
          false ⟨⟨[]⟩, 0, .empty .empty none⟩ = some (.ok .finished, after', later') ∧
        0 < after.depth ∧ after'.depth = 0 ∧ later.out.held ≠ later'.out.held := by
  have failed :
      (withLayout "a\x7db" .bodyOnly).expand (sceneHost Tray.sink ⟨.stock, 0, none, none⟩) 3 false
          ⟨⟨[]⟩, 0, .empty .empty (some 0)⟩ =
        some (.error .full, ⟨"a\x7db", .bodyOnly, 2, 0, 1, #[]⟩,
          ⟨⟨[]⟩, 0, .empty .empty (some 0)⟩) := by
    cbv
  have retried :
      (Template.mk "a\x7db" .bodyOnly 0 0 1 #[]).expand
          (sceneHost Tray.sink ⟨.stock, 0, none, none⟩) 3 false ⟨⟨[]⟩, 0, .empty .empty none⟩ =
        some (.ok .finished, ⟨"a\x7db", .bodyOnly, 2, 0, 1, #[]⟩,
          ⟨⟨[]⟩, 0, .empty, "a".toUTF8, none⟩) := by
    cbv
  have begun :
      (withLayout "a\x7db" .bodyOnly).anew.expand (sceneHost Tray.sink ⟨.stock, 0, none, none⟩) 3
          false ⟨⟨[]⟩, 0, .empty .empty none⟩ =
        some (.ok .finished, ⟨"a\x7db", .bodyOnly, 3, 0, 0, #[]⟩,
          ⟨⟨[]⟩, 0, .empty, "a\x7db".toUTF8, none⟩) := by
    cbv
  have unlike : ¬ (withLayout "a\x7db" .bodyOnly).ReadsAlike := by
    decide
  have collects : Tray.sink.Collects Tray.held (Scene.mk ⟨[]⟩ 0 (.empty .empty none)).out :=
    Tray.collects _ rfl
  obtain ⟨deep, outcome, _⟩ := retry_after_failure rfl failed ⟨.stock, 0, none, none⟩ collects
  obtain ⟨level, compared⟩ := outcome _ _ _ _ retried
  obtain ⟨level', alike⟩ := compared _ _ _ _ begun
  exact ⟨_, _, _, _, _, _, failed, retried, begun, level ▸ deep, level',
    fun same => unlike (alike.mp ⟨rfl, same⟩)⟩

end
end SiteIndex.Template

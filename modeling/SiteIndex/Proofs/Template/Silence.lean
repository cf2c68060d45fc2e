import SiteIndex.Proofs.Template.Rendered
import SiteIndex.Proofs.Template.TwoPhases

/-!
What an expansion does not depend on. Where it stops is told by the text alone: what is written, what the
widgets answer and how often a body is gone through play no part in it. A silent expansion does nothing
else but get there.
-/

namespace SiteIndex.Template

open SiteIndex.Listing SiteIndex.Text

section
variable {ε ω : Type} (host : Host ε ω)

/-- A rendering that has come to its end with the world as it was. -/
def Rendered.Idle (world : ω) (rendered : Rendered ε ω) : Prop :=
  ∃ ending diagnostics, rendered = some (.ok ending, ⟨diagnostics, world⟩)

theorem Rendered.Idle.unlessTruncated {world : ω} {rendered : Rendered ε ω}
    (idle : rendered.Idle world) {next : Stage ω → Rendered ε ω}
    (onward : ∀ stage : Stage ω, stage.world = world → (next stage).Idle world) :
    (rendered.unlessTruncated next).Idle world := by
  obtain ⟨ending, diagnostics, rfl⟩ := idle
  cases ending with
  | truncated => exact ⟨.truncated, diagnostics, rfl⟩
  | finished => exact onward _ rfl
  | sectionBoundary => exact onward _ rfl

/-- In silence nothing is written and no widget called, so nothing can fail or go on forever. -/
theorem Section.render_silent (limit : Limit ω) (part : Section) (depth : Nat) (stage : Stage ω) :
    (part.render host limit depth true stage).Idle stage.world := by
  induction part generalizing depth stage with
  | endsAt stop => cases stop <;> exact ⟨_, _, rfl⟩
  | text content next ih => exact ih depth stage
  | call name offset next ih =>
      have onward := ih depth (stage.noteName name offset)
      rw [Stage.noteName_world] at onward
      rw [render_call]
      cases Widget.ofName? name <;> exact onward
  | block name offset body next body_ih ih =>
      have pass := body_ih (depth + 1) ((stage.noteName name offset).reportDepth (depth + 1))
      rw [Stage.reportDepth_world, Stage.noteName_world] at pass
      rw [render_block]
      refine Rendered.Idle.unlessTruncated ?_ fun later same => same ▸ ih depth later
      cases Widget.ofName? name <;> exact pass

theorem Section.renderPass_silent (limit : Limit ω) (depth : Nat) (body : Section) (stage : Stage ω) :
    (body.renderPass host limit depth true stage).Idle stage.world := by
  have idle := body.render_silent host limit (depth + 1) (stage.reportDepth (depth + 1))
  rwa [Stage.reportDepth_world] at idle

theorem renderUpcoming_silent (limit : Limit ω) (template : Template) (world : ω) :
    (template.renderUpcoming host limit true world).Idle world := by
  have idle := Section.render_silent host limit template.upcoming.1 (template.depth + 1)
    ((Stage.mk template.diagnostics world).reportDepth (template.depth + 1))
  rwa [Stage.reportDepth_world] at idle

/-- A silent expansion has a result, and all that it changes is the template. -/
theorem expand_silent (template : Template) (world : ω) :
    ∃ fuel ending after, template.expand host fuel true world = some (.ok ending, after, world) := by
  obtain ⟨ending, diagnostics, rendered⟩ := renderUpcoming_silent host (fun _ _ => 0) template world
  obtain ⟨fuel, after, ended, _⟩ := expand_of_renderUpcoming host rendered
  exact ⟨fuel, ending, after, ended⟩

theorem world_of_expand_silent {fuel : Nat} {template after : Template} {world later : ω}
    {result : Except ε Ending}
    (ended : template.expand host fuel true world = some (result, after, later)) : later = world := by
  obtain ⟨rendered, _⟩ := renderUpcoming_of_expand host ended
  obtain ⟨ending, diagnostics, idle⟩ := renderUpcoming_silent host (fun _ _ => fuel) template world
  cases rendered.symm.trans idle
  rfl

end

/-- Two expansions from the same state of a template stop alike, whatever they are expanded for and
wherever they write to, and silent or not. A silent one always stops, and leaves all but the template as
it was. -/
theorem stops_by_text {ε ε' σ σ' : Type} (sink : Sink ε σ) (sink' : Sink ε' σ') (template : Template)
    (context context' : Context) :
    (∀ fuel fuel' suppressed suppressed' scene scene' result result' after after' later later',
      sink.Accepts scene.out → sink'.Accepts scene'.out →
      template.expand (sceneHost sink context) fuel suppressed scene = some (result, after, later) →
      template.expand (sceneHost sink' context') fuel' suppressed' scene' =
        some (result', after', later') →
      (∃ ending, result = .ok ending ∧ result' = .ok ending) ∧
        after.position = after'.position ∧ after.depth = after'.depth ∧
        after.rewindPoint = after'.rewindPoint) ∧
    (∀ scene, ∃ fuel ending after,
      template.expand (sceneHost sink context) fuel true scene = some (.ok ending, after, scene)) ∧
    ∀ fuel scene result after later,
      template.expand (sceneHost sink context) fuel true scene = some (result, after, later) →
      later = scene := by
  refine ⟨?_, expand_silent _ template, fun _ _ _ _ _ => world_of_expand_silent _⟩
  intro fuel fuel' suppressed suppressed' scene scene' result result' after after' later later' accepts
    accepts' ended ended'
  obtain ⟨⟨ending, rfl⟩, _⟩ := expand_accepted accepts ended
  obtain ⟨⟨ending', rfl⟩, _⟩ := expand_accepted accepts' ended'
  obtain ⟨stop, arrived⟩ := (renderUpcoming_of_expand _ ended).2 ending rfl
  obtain ⟨stop', arrived'⟩ := (renderUpcoming_of_expand _ ended').2 ending' rfl
  rw [arrived, arrived']
  exact ⟨⟨ending, rfl, by rw [stop', ← stop]⟩, rfl, rfl, rfl⟩

/-- A loop that goes through its body once for each of two files stops where silence does. -/
theorem stops_by_text_loop :
    let template := withLayout "@(files)\x7b@(filename);\x7d" .bodyOnly
    let listing : Arena :=
      ⟨[⟨none, none, "", [], [⟨"a", 1, false⟩, ⟨"b", 1, false⟩], .unset, none⟩]⟩
    ∃ after later after', template.expand (sceneHost Tray.sink ⟨.stock, 0, some 0, none⟩) 100 false
          ⟨listing, 0, .empty .empty none⟩ = some (.ok .finished, after, later) ∧
        template.expand (sceneHost Tray.sink ⟨.stock, 0, none, none⟩) 100 true
          ⟨.empty, 0, .empty .empty none⟩ =
            some (.ok .finished, after', ⟨.empty, 0, .empty .empty none⟩) ∧
        after.position = after'.position ∧ after.depth = after'.depth ∧
        after.rewindPoint = after'.rewindPoint := by
  intro template listing
  have visible : (template.expand (sceneHost Tray.sink ⟨.stock, 0, some 0, none⟩) 100 false
      ⟨listing, 0, .empty .empty none⟩) = some (.ok .finished,
        ⟨"@(files)\x7b@(filename);\x7d", .bodyOnly, 22, 0, 0, #[]⟩,
        ⟨listing, 0, ⟨.empty, "a;b;".toUTF8, none⟩⟩) := by
    cbv
  have silent : (template.expand (sceneHost Tray.sink ⟨.stock, 0, none, none⟩) 100 true
      ⟨.empty, 0, .empty .empty none⟩) = some (.ok .finished,
        ⟨"@(files)\x7b@(filename);\x7d", .bodyOnly, 22, 0, 0, #[]⟩,
        ⟨.empty, 0, .empty .empty none⟩) := by
    cbv
  obtain ⟨_, stops⟩ := (stops_by_text Tray.sink Tray.sink template ⟨.stock, 0, some 0, none⟩
    ⟨.stock, 0, none, none⟩).1 _ _ _ _ _ _ _ _ _ _ _ _ (Tray.accepts _ rfl) (Tray.accepts _ rfl)
      visible silent
  exact ⟨_, _, _, visible, silent, stops⟩

end SiteIndex.Template

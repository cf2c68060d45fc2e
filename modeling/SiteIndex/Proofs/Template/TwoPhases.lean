import Mathlib
import SiteIndex.Proofs.Template.Answers
import SiteIndex.Proofs.Template.SinglePass

/-!
An expansion in a single pass comes to what reading the section into a tree and rendering the tree
come to: the same output and ending, the same diagnostics, snapshots and sink, and the same position.
-/

namespace SiteIndex.Template

open SiteIndex.Text

section
variable {ε ω : Type} (host : Host ε ω)

/-- Where an expansion starts. -/
def standing (template : Template) : Place :=
  (Place.at? template.source.toList template.position).getD
    (Place.start template.source.toList).toEnd

/-- What lies ahead of an expansion, and the place behind it. -/
def upcoming (template : Template) : Section × Place :=
  Section.ahead template.layout (template.depth + 1) template.standing

/-- The template once an expansion has come to its end. -/
def arrived (template : Template) (diagnostics : Array Diagnostic) : Template :=
  { template with
    position := template.upcoming.2.offset
    rewindPoint := if template.depth = 0 then template.standing.offset else template.rewindPoint
    diagnostics }

/-- What lies ahead, rendered on the level on which an expansion finds it. -/
def renderUpcoming (limit : Limit ω) (suppressed : Bool) (template : Template) (world : ω) :
    Rendered ε ω :=
  template.upcoming.1.render host limit (template.depth + 1) suppressed
    ((Stage.mk template.diagnostics world).reportDepth (template.depth + 1))

theorem expand_accord (suppressed : Bool) (template : Template) (world : ω) :
    Accord template.upcoming.1.ending
      ((template.progress world).enter.arrival template.upcoming.2)
      (fun fuel =>
        expandItems host template.layout suppressed fuel "" (template.progress world).enter)
      (fun limit => template.renderUpcoming host limit suppressed world) := by
  refine (items_accord host template.layout suppressed "" (template.progress world).enter ?_).entered
  rw [enter_depth]
  exact Nat.succ_pos _

theorem resume_arrival (template : Template) (world : ω) (stage : Stage ω) :
    template.resume ((template.progress world).enter.arrival template.upcoming.2 stage) =
      template.arrived stage.diagnostics := by
  have memory := enter_rewindPoint (template.progress world)
  unfold resume arrived Progress.arrival
  simp only [enter_depth, memory, Nat.add_sub_cancel]
  rfl

/-- An expansion that has a result is the rendering of what lay ahead. -/
theorem renderUpcoming_of_expand {fuel : Nat} {suppressed : Bool} {template after : Template}
    {world later : ω} {result : Except ε Ending}
    (ended : template.expand host fuel suppressed world = some (result, after, later)) :
    template.renderUpcoming host (fun _ _ => fuel) suppressed world =
        some (result, ⟨after.diagnostics, later⟩) ∧
      ∀ ending, result = .ok ending →
        ending = template.upcoming.1.ending ∧ after = template.arrived after.diagnostics := by
  have accord := (expand_accord host suppressed template world).sound fuel (fun _ _ => fuel)
    fun _ _ => Nat.le_refl fuel
  unfold expand at ended
  rcases accord with none | agrees
  · rw [none] at ended
    cases ended
  · rcases agrees.elim with ⟨stage, out, rendered⟩ | ⟨failure, progress, out, rendered⟩
    · rw [out] at ended
      cases ended
      refine ⟨rendered, fun ending same => ⟨(Except.ok.inj same).symm, ?_⟩⟩
      exact resume_arrival template world stage
    · rw [out] at ended
      cases ended
      exact ⟨rendered, nofun⟩

/-- What can be rendered can be expanded, with some allowance. -/
theorem expand_of_renderUpcoming {limit : Limit ω} {suppressed : Bool} {template : Template}
    {world : ω} {result : Except ε Ending} {stage : Stage ω}
    (rendered : template.renderUpcoming host limit suppressed world = some (result, stage)) :
    ∃ fuel after, template.expand host fuel suppressed world = some (result, after, stage.world) ∧
      after.diagnostics = stage.diagnostics := by
  rcases (expand_accord host suppressed template world).complete limit with none | ⟨fuel, agrees⟩
  · rw [rendered] at none
    cases none
  · refine ⟨fuel, ?_⟩
    unfold expand
    rw [rendered] at agrees
    rcases agrees.elim with ⟨stage, out, same⟩ | ⟨failure, progress, out, same⟩
    · cases same
      rw [out]
      exact ⟨_, rfl, rfl⟩
    · cases same
      rw [out]
      exact ⟨_, rfl, rfl⟩

/-- Reads the section at the position into a tree, without any context, and then renders the tree. -/
def readAndRender (limit : Limit ω) (suppressed : Bool) (template : Template) (world : ω) :
    Option (Except ε Ending × Template × ω) :=
  let (part, behind) := Section.read template.layout false template.standing
  (part.render host limit 1 suppressed ⟨template.diagnostics, world⟩).map fun (result, stage) =>
    (result,
      { template with
        position := behind.offset
        rewindPoint := template.standing.offset
        depth := 0
        diagnostics := stage.diagnostics },
      stage.world)

theorem readAndRender_eq {limit : Limit ω} {suppressed : Bool} {template : Template} {world : ω}
    (outermost : template.depth = 0) :
    template.readAndRender host limit suppressed world =
      (template.renderUpcoming host limit suppressed world).map fun (result, stage) =>
        (result, template.arrived stage.diagnostics, stage.world) := by
  unfold readAndRender renderUpcoming arrived upcoming
  rw [outermost]
  rfl

end

section
variable {ε σ : Type} {sink : Sink ε σ} {context : Context}

theorem readAndRender_of_expand {fuel : Nat} {suppressed : Bool} {template : Template}
    {scene : Scene σ} (accepts : sink.Accepts scene.out) (outermost : template.depth = 0)
    {result : Except ε Ending × Template × Scene σ}
    (ended : template.expand (sceneHost sink context) fuel suppressed scene = some result) :
    template.readAndRender (sceneHost sink context) (fun _ _ => fuel) suppressed scene =
      some result := by
  obtain ⟨result, after, later⟩ := result
  obtain ⟨⟨ending, rfl⟩, _⟩ := expand_accepted accepts ended
  obtain ⟨rendered, arrived⟩ := renderUpcoming_of_expand _ ended
  rw [readAndRender_eq _ outermost, rendered, Option.map_some]
  dsimp only
  rw [← (arrived ending rfl).2]

theorem expand_of_readAndRender {limit : Limit (Scene σ)} {suppressed : Bool}
    {template : Template} {scene : Scene σ} (accepts : sink.Accepts scene.out)
    (outermost : template.depth = 0) {result : Except ε Ending × Template × Scene σ}
    (same : template.readAndRender (sceneHost sink context) limit suppressed scene =
      some result) :
    ∃ fuel, template.expand (sceneHost sink context) fuel suppressed scene = some result := by
  rw [readAndRender_eq _ outermost] at same
  obtain ⟨⟨result, stage⟩, rendered, rfl⟩ := Option.map_eq_some_iff.mp same
  obtain ⟨fuel, after, ended, diagnostics⟩ := expand_of_renderUpcoming _ rendered
  obtain ⟨⟨ending, rfl⟩, _⟩ := expand_accepted accepts ended
  have arrived := ((renderUpcoming_of_expand _ ended).2 ending rfl).2
  rw [diagnostics] at arrived
  exact ⟨fuel, by rw [ended, arrived]⟩

/-- Where the sink takes everything, an expansion has exactly the results that reading the section
into a tree and rendering the tree have. -/
theorem expand_iff_readAndRender (suppressed : Bool) {template : Template} {scene : Scene σ}
    (accepts : sink.Accepts scene.out) (outermost : template.depth = 0)
    (result : Except ε Ending × Template × Scene σ) :
    (∃ fuel, template.expand (sceneHost sink context) fuel suppressed scene = some result) ↔
      ∃ limit, template.readAndRender (sceneHost sink context) limit suppressed scene =
        some result := by
  constructor
  · rintro ⟨fuel, ended⟩
    exact ⟨_, readAndRender_of_expand accepts outermost ended⟩
  · rintro ⟨limit, same⟩
    exact expand_of_readAndRender accepts outermost same

theorem expand_iff_readAndRender_twoFiles :
    ∃ fuel, (withLayout "@(files)\x7b@(filename);\x7d\x7d@(c" .bodyOnly).expand
        (sceneHost Tray.sink ⟨.stock, 0, some 0, none⟩) fuel false
        ⟨⟨[⟨none, none, "", [], [⟨"a", 1, false⟩, ⟨"b", 1, false⟩], .unset, none⟩]⟩, 0,
          .empty .empty none⟩ =
      some (.ok .truncated,
        ⟨"@(files)\x7b@(filename);\x7d\x7d@(c", .bodyOnly, 26, 0, 0, #[.unterminatedInvocation 23]⟩,
        ⟨⟨[⟨none, none, "", [], [⟨"a", 1, false⟩, ⟨"b", 1, false⟩], .unset, none⟩]⟩, 0,
          ⟨.empty, "a;b;\x7d@(c".toUTF8, none⟩⟩) := by
  refine (expand_iff_readAndRender false (Tray.accepts _ rfl) rfl _).mpr ⟨fun _ _ => 2, ?_⟩
  cbv

end
end SiteIndex.Template

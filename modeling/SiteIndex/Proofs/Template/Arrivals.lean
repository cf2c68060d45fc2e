import SiteIndex.Proofs.Template.Silence

/-!
What holds where a rendering comes to an end, and whether it comes to one. A rendering that has been cut
short is the end of everything around it, so more can be said of those that have not.
-/

namespace SiteIndex.Template

section
variable {ε ω : Type} {host : Host ε ω}

namespace Rendered

/-- What holds where a rendering comes to an end. -/
def Ends (After : Ending → ω → Prop) (rendered : Rendered ε ω) : Prop :=
  ∀ ending stage, rendered = some (.ok ending, stage) → After ending stage.world

/-- What holds where a rendering comes to an end that has not been cut short. -/
def Lands (After : ω → Prop) (rendered : Rendered ε ω) : Prop :=
  rendered.Ends fun ending world => ending ≠ .truncated → After world

/-- A rendering that has a result, and so it lands if it does not fail. -/
structure Arrives (After : ω → Prop) (rendered : Rendered ε ω) : Prop where
  some : rendered ≠ none
  lands : rendered.Lands After

section
variable {After After' : Ending → ω → Prop}

theorem Ends.of_world {stage : Stage ω} {ending : Ending} (after : After ending stage.world) :
    Ends (ε := ε) After (.some (.ok ending, stage)) := by
  rintro _ _ ⟨⟩
  exact after

theorem Ends.unlessTruncated {rendered : Rendered ε ω} (ends : rendered.Ends After)
    {next : Stage ω → Rendered ε ω} (short : ∀ world, After .truncated world → After' .truncated world)
    (onward : ∀ ending (stage : Stage ω), ending ≠ .truncated → After ending stage.world →
      (next stage).Ends After') :
    (rendered.unlessTruncated next).Ends After' := by
  rcases rendered with _ | ⟨failure | ending, stage⟩
  · exact nofun
  · exact nofun
  · cases ending with
    | truncated => exact .of_world (short _ (ends _ _ rfl))
    | finished => exact onward .finished stage nofun (ends _ _ rfl)
    | sectionBoundary => exact onward .sectionBoundary stage nofun (ends _ _ rfl)

end

section
variable {After Between : ω → Prop}

theorem Lands.of_world {stage : Stage ω} (ending : Ending) (after : After stage.world) :
    Lands (ε := ε) After (.some (.ok ending, stage)) :=
  Ends.of_world fun _ => after

theorem Lands.cut (stage : Stage ω) : Lands (ε := ε) After (.some (.ok .truncated, stage)) :=
  Ends.of_world fun whole => absurd rfl whole

theorem Lands.mono {rendered : Rendered ε ω} (lands : rendered.Lands Between)
    (weaker : ∀ world, Between world → After world) : rendered.Lands After :=
  fun ending stage ended whole => weaker _ (lands ending stage ended whole)

theorem Lands.unlessTruncated {rendered : Rendered ε ω} (lands : rendered.Lands Between)
    {next : Stage ω → Rendered ε ω}
    (onward : ∀ stage : Stage ω, Between stage.world → (next stage).Lands After) :
    (rendered.unlessTruncated next).Lands After :=
  Ends.unlessTruncated lands (fun _ _ whole => absurd rfl whole)
    fun _ stage whole between => onward stage (between whole)

theorem Arrives.of_world {stage : Stage ω} (ending : Ending) (after : After stage.world) :
    Arrives (ε := ε) After (.some (.ok ending, stage)) :=
  ⟨nofun, .of_world ending after⟩

theorem Arrives.cut (stage : Stage ω) : Arrives (ε := ε) After (.some (.ok .truncated, stage)) :=
  ⟨nofun, .cut stage⟩

theorem Arrives.failed (failure : ε) (stage : Stage ω) :
    Arrives After (.some (.error failure, stage)) :=
  ⟨nofun, nofun⟩

theorem Arrives.of_idle {rendered : Rendered ε ω} {world : ω} (idle : rendered.Idle world)
    (after : After world) : rendered.Arrives After := by
  obtain ⟨ending, diagnostics, rfl⟩ := idle
  exact .of_world ending after

theorem Arrives.mono {rendered : Rendered ε ω} (arrives : rendered.Arrives Between)
    (weaker : ∀ world, Between world → After world) : rendered.Arrives After :=
  ⟨arrives.some, arrives.lands.mono weaker⟩

theorem Arrives.and {rendered : Rendered ε ω} (arrives : rendered.Arrives Between)
    (lands : rendered.Lands After) : rendered.Arrives fun world => Between world ∧ After world :=
  ⟨arrives.some, fun ending stage ended whole =>
    ⟨arrives.lands ending stage ended whole, lands ending stage ended whole⟩⟩

theorem Arrives.unlessTruncated {rendered : Rendered ε ω} (arrives : rendered.Arrives Between)
    {next : Stage ω → Rendered ε ω}
    (onward : ∀ stage : Stage ω, Between stage.world → (next stage).Arrives After) :
    (rendered.unlessTruncated next).Arrives After := by
  rcases rendered with _ | ⟨failure | ending, stage⟩
  · exact absurd rfl arrives.some
  · exact .failed failure stage
  · cases ending with
    | truncated => exact .cut stage
    | finished => exact onward stage (arrives.lands _ _ rfl nofun)
    | sectionBoundary => exact onward stage (arrives.lands _ _ rfl nofun)

end
end Rendered

namespace Stage

theorem write_ends {Kept : ω → Prop} {After : Ending → ω → Prop}
    (keeps : ∀ bytes world, Kept world → Kept (host.write bytes world).2)
    {stage : Stage ω} (kept : Kept stage.world) (silent : Bool) (text : List Char)
    {next : Stage ω → Rendered ε ω}
    (onward : ∀ stage : Stage ω, Kept stage.world → (next stage).Ends After) :
    (stage.write host silent text next).Ends After := by
  have later := keeps (String.ofList text).toUTF8 stage.world kept
  unfold Stage.write
  split
  · exact onward stage kept
  · revert later
    rcases host.write (String.ofList text).toUTF8 stage.world with ⟨failure | _, world⟩
    · exact fun _ => nofun
    · exact onward ⟨stage.diagnostics, world⟩

theorem write_lands {After : ω → Prop} {stage : Stage ω} (text : List Char)
    {next : Stage ω → Rendered ε ω}
    (written : ∀ later, host.write (String.ofList text).toUTF8 stage.world = (.ok (), later) →
      (next { stage with world := later }).Lands After) :
    (stage.write host false text next).Lands After := by
  unfold Stage.write
  simp only [Bool.false_eq_true, if_false]
  split
  · next wrote => exact written _ wrote
  · exact nofun

theorem write_arrives {After : ω → Prop} {stage : Stage ω} (silent : Bool) (text : List Char)
    {next : Stage ω → Rendered ε ω} (passed : silent = true → (next stage).Arrives After)
    (written : ∀ later, host.write (String.ofList text).toUTF8 stage.world = (.ok (), later) →
      (next { stage with world := later }).Arrives After) :
    (stage.write host silent text next).Arrives After := by
  unfold Stage.write
  split
  · next quiet => exact passed quiet
  · split
    · next wrote => exact written _ wrote
    · exact .failed _ _

section
variable {stage : Stage ω} {widget : Widget} {repeating : Bool}
  {next : Bool → Stage ω → Rendered ε ω}

theorem ask_ends {After : Ending → ω → Prop}
    (answered : ∀ again later, host.call widget repeating stage.world = (.ok again, later) →
      (next again { stage with world := later }).Ends After) :
    (stage.ask host widget repeating next).Ends After := by
  unfold Stage.ask
  split
  · next called => exact answered _ _ called
  · exact nofun

theorem ask_arrives {After : ω → Prop}
    (answered : ∀ again later, host.call widget repeating stage.world = (.ok again, later) →
      (next again { stage with world := later }).Arrives After) :
    (stage.ask host widget repeating next).Arrives After := by
  unfold Stage.ask
  split
  · next called => exact answered _ _ called
  · exact .failed _ _

end
end Stage
end

/-- What all that a widget does keeps, each answer keeps. -/
theorem Kept.bearing {ε τ : Type} {sink : Sink ε τ} {context : Context} {Whole Broken : Scene τ → Prop}
    (kept : Kept sink context Whole Broken) :
    Bearing (sceneHost sink context) (fun _ => True) Whole Broken where
  write := by
    intro scene bytes whole
    have written := kept.write bytes whole
    change Leaves Whole Broken (Action.writeBytes sink bytes scene)
    revert written
    rcases Action.writeBytes sink bytes scene with ⟨_ | _, later⟩
    · exact id
    · exact id
  call := by
    intro scene widget repeating _ whole
    have called := kept.twinned.alongside.call widget repeating (fun _ _ => rfl) ⟨rfl, whole⟩
    revert called
    rcases (sceneHost sink context).call widget repeating scene with ⟨_ | again, later⟩
    · rintro (_ | ⟨_, broken⟩)
      exact broken.2
    · rintro (⟨_, _, whole⟩ | _)
      exact whole

/-- Where no write fails, nothing does. -/
theorem Kept.obliging {ε τ : Type} {sink : Sink ε τ} {context : Context} {Whole : Scene τ → Prop}
    (kept : Kept sink context Whole fun _ => False) : Obliging (sceneHost sink context) Whole :=
  kept.bearing.obliging

end SiteIndex.Template

import SiteIndex.Proofs.Template.Reading
import SiteIndex.Proofs.Template.Stepwise
import SiteIndex.Template.Rendering

/-!
When a single pass over the text and the rendering of the tree read from it come to the same. The one
has an allowance of steps and the other a limit for each loop, so they are compared as families: every
finished outcome is a rendered result once the limits are no smaller than the allowance, and every
rendered result is the outcome of some allowance. The families are put together along the text.
-/

namespace SiteIndex.Template

open SiteIndex.Text

variable {ε ω : Type}

/-- How an expansion ends that comes to this stop. -/
def Stop.ending : Stop → Ending
  | .endOfText | .closing => .finished
  | .separator => .sectionBoundary
  | .unterminated _ _ | .cutShort => .truncated

def Section.ending (part : Section) : Ending :=
  part.lastStop.ending

theorem Section.isTruncated_iff (part : Section) :
    part.isTruncated = true ↔ part.ending = .truncated := by
  unfold isTruncated ending
  cases part.lastStop <;> simp [Stop.ending]

def Progress.stage (progress : Progress ω) : Stage ω :=
  ⟨progress.diagnostics, progress.world⟩

/-- Where a level ends up that has been gone through to the place `behind` it. -/
def Progress.arrival (progress : Progress ω) (behind : Place) (stage : Stage ω) : Progress ω :=
  ⟨behind, progress.rewindPoint, progress.depth - 1, stage.diagnostics, stage.world⟩

/-- Back on the level that a body lies in, once the body has been gone through. -/
def Progress.backAt (progress : Progress ω) (behind : Place) (stage : Stage ω) : Progress ω :=
  ⟨behind, progress.rewindPoint, progress.depth, stage.diagnostics, stage.world⟩

/-- On the same level, and with the same place to rewind to. -/
structure Progress.Beside (origin progress : Progress ω) : Prop where
  depth : progress.depth = origin.depth
  rewindPoint : progress.rewindPoint = origin.rewindPoint

theorem Progress.Beside.arrival {origin progress : Progress ω} (beside : origin.Beside progress) :
    progress.arrival = origin.arrival := by
  unfold Progress.arrival
  rw [beside.depth, beside.rewindPoint]

theorem Progress.Beside.backAt {origin progress : Progress ω} (beside : origin.Beside progress) :
    progress.backAt = origin.backAt := by
  unfold Progress.backAt
  rw [beside.depth, beside.rewindPoint]

theorem Progress.noteName_beside (progress : Progress ω) (name : String) (offset : Nat) :
    progress.Beside (progress.noteName name offset) := by
  unfold noteName
  split <;> exact ⟨rfl, rfl⟩

/-- A stage at an invocation: a name that no widget goes by is reported. -/
def Stage.noteName (stage : Stage ω) (name : String) (offset : Nat) : Stage ω :=
  if (Widget.ofName? name).isNone then stage.report (.unknownSymbol name offset) else stage

theorem Progress.noteName_stage (progress : Progress ω) (name : String) (offset : Nat) :
    (progress.noteName name offset).stage = progress.stage.noteName name offset := by
  unfold noteName Stage.noteName
  split <;> rfl

theorem Stage.noteName_world (stage : Stage ω) (name : String) (offset : Nat) :
    (stage.noteName name offset).world = stage.world := by
  unfold noteName
  split <;> rfl

/-- Does what follows a body that has been rendered, unless the text has been cut short in it. -/
def Rendered.unlessTruncated (goOn : Stage ω → Rendered ε ω) : Rendered ε ω → Rendered ε ω
  | some (.ok .truncated, stage) => some (.ok .truncated, stage)
  | some (.ok _, stage) => goOn stage
  | some (.error failure, stage) => some (.error failure, stage)
  | none => none

theorem Rendered.unlessTruncated_eq (goOn : Stage ω → Rendered ε ω) (rendered : Rendered ε ω) :
    (match rendered with
      | some (.ok .truncated, stage) => some (.ok .truncated, stage)
      | some (.ok _, stage) => goOn stage
      | failed => failed) = rendered.unlessTruncated goOn := by
  rcases rendered with _ | ⟨_ | ending, _⟩
  · rfl
  · rfl
  · cases ending <;> rfl

theorem Outcome.unlessTruncated_ended {ending : Ending} (whole : ending ≠ .truncated)
    (cut : Progress ω → Progress ω) (goOn : Ending → Progress ω → Outcome ε ω)
    (progress : Progress ω) :
    (Outcome.ended ending progress).unlessTruncated cut goOn = goOn ending progress := by
  cases ending <;> first | rfl | exact absurd rfl whole

theorem Outcome.unlessTruncated_id (outcome : Outcome ε ω) :
    outcome.unlessTruncated id (fun ending progress => .ended ending progress) = outcome := by
  cases outcome with
  | ended ending _ => cases ending <;> rfl
  | _ => rfl

theorem Rendered.unlessTruncated_ok {ending : Ending} (whole : ending ≠ .truncated)
    (goOn : Stage ω → Rendered ε ω) (stage : Stage ω) :
    Rendered.unlessTruncated goOn (some (.ok ending, stage)) = goOn stage := by
  cases ending <;> first | rfl | exact absurd rfl whole

/-- One outcome and one rendered result that say the same, with the ending the text has. -/
inductive Agrees (ending : Ending) (arrive : Stage ω → Progress ω) :
    Outcome ε ω → Rendered ε ω → Prop
  | ended (stage : Stage ω) :
      Agrees ending arrive (.ended ending (arrive stage)) (some (.ok ending, stage))
  | failed (failure : ε) (progress : Progress ω) :
      Agrees ending arrive (.failed failure progress) (some (.error failure, progress.stage))

/-- Limits for the loops of a rendering. -/
abbrev Limit (ω : Type) : Type := Widget → ω → Nat

/-- The outcomes, by allowance, and the rendered results, by limit, come to the same. -/
structure Accord (ending : Ending) (arrive : Stage ω → Progress ω)
    (outcome : Nat → Outcome ε ω) (rendered : Limit ω → Rendered ε ω) : Prop where
  settles : ∀ {fuel fuel' : Nat}, fuel ≤ fuel' → (outcome fuel).Settles (outcome fuel')
  sound : ∀ (fuel : Nat) (limit : Limit ω), (∀ widget world, fuel ≤ limit widget world) →
    outcome fuel = .unfinished ∨ Agrees ending arrive (outcome fuel) (rendered limit)
  complete : ∀ limit : Limit ω,
    rendered limit = none ∨ ∃ fuel, Agrees ending arrive (outcome fuel) (rendered limit)

namespace Agrees

variable {ending : Ending} {arrive : Stage ω → Progress ω}

/-- Two that agree have both ended or both failed. -/
theorem elim {outcome : Outcome ε ω} {rendered : Rendered ε ω}
    (agrees : Agrees ending arrive outcome rendered) :
    (∃ stage, outcome = .ended ending (arrive stage) ∧ rendered = some (.ok ending, stage)) ∨
      ∃ failure progress, outcome = .failed failure progress ∧
        rendered = some (.error failure, progress.stage) := by
  cases agrees with
  | ended stage => exact .inl ⟨stage, rfl, rfl⟩
  | failed failure progress => exact .inr ⟨failure, progress, rfl, rfl⟩

/-- What follows a body that has been gone through alike. -/
theorem unlessTruncated {outcome : Outcome ε ω} {rendered : Rendered ε ω}
    (agrees : Agrees ending arrive outcome rendered) {cut : Progress ω → Progress ω}
    {goOn : Ending → Progress ω → Outcome ε ω} {next : Stage ω → Rendered ε ω}
    {motive : Outcome ε ω → Rendered ε ω → Prop}
    (short : ending = .truncated → ∀ stage,
      motive (.ended .truncated (cut (arrive stage))) (some (.ok .truncated, stage)))
    (whole : ending ≠ .truncated → ∀ stage, motive (goOn ending (arrive stage)) (next stage))
    (failed : ∀ failure progress,
      motive (.failed failure progress) (some (.error failure, progress.stage))) :
    motive (outcome.unlessTruncated cut goOn) (rendered.unlessTruncated next) := by
  rcases agrees.elim with ⟨stage, rfl, rfl⟩ | ⟨failure, progress, rfl, rfl⟩
  · by_cases truncated : ending = .truncated
    · subst truncated
      exact short rfl stage
    · rw [Outcome.unlessTruncated_ended truncated, Rendered.unlessTruncated_ok truncated]
      exact whole truncated stage
  · exact failed failure progress

theorem finished {outcome : Outcome ε ω} {rendered : Rendered ε ω}
    (agrees : Agrees ending arrive outcome rendered) : outcome ≠ .unfinished := by
  rcases agrees.elim with ⟨_, rfl, _⟩ | ⟨_, _, rfl, _⟩ <;> simp

end Agrees

namespace Accord

variable {ending : Ending} {arrive : Stage ω → Progress ω}
  {outcome : Nat → Outcome ε ω} {rendered : Limit ω → Rendered ε ω}

theorem of_agrees {first : Outcome ε ω} {second : Rendered ε ω}
    (agrees : Agrees ending arrive first second) :
    Accord ending arrive (fun _ => first) (fun _ => second) where
  settles _ := .refl _
  sound _ _ _ := .inr agrees
  complete _ := .inr ⟨0, agrees⟩

theorem ended {stage : Stage ω} {progress : Progress ω} (arrived : progress = arrive stage) :
    Accord (ε := ε) ending arrive (fun _ => .ended ending progress)
      (fun _ => some (.ok ending, stage)) := by
  subst arrived
  exact .of_agrees (.ended stage)

/-- A step takes one unit of the allowance. -/
theorem of_succ (none : outcome 0 = .unfinished)
    (accord : Accord ending arrive (fun fuel => outcome (fuel + 1)) rendered) :
    Accord ending arrive outcome rendered where
  settles := by
    intro fuel fuel' more
    cases fuel with
    | zero => exact .inl none
    | succ fuel =>
        obtain ⟨fuel', rfl⟩ := Nat.exists_eq_succ_of_ne_zero (Nat.ne_zero_of_lt more)
        exact accord.settles (Nat.le_of_succ_le_succ more)
  sound := by
    intro fuel limit enough
    cases fuel with
    | zero => exact .inl none
    | succ fuel =>
        exact accord.sound fuel limit fun widget world =>
          Nat.le_of_succ_le (enough widget world)
  complete := by
    intro limit
    rcases accord.complete limit with none | ⟨fuel, agrees⟩
    · exact .inl none
    · exact .inr ⟨fuel + 1, agrees⟩

/-- What follows a body: if the body is cut short so is the whole, otherwise the rest behind it. -/
theorem unlessTruncated {inner : Ending} {arrive' : Stage ω → Progress ω}
    {cut : Progress ω → Progress ω} {goOn : Nat → Ending → Progress ω → Outcome ε ω}
    {next : Limit ω → Stage ω → Rendered ε ω}
    (onward : ∀ {fuel fuel' : Nat}, fuel ≤ fuel' → ∀ ending progress,
      (goOn fuel ending progress).Settles (goOn fuel' ending progress))
    (accord : Accord inner arrive' outcome rendered)
    (short : inner = .truncated →
      ending = .truncated ∧ ∀ stage, cut (arrive' stage) = arrive stage)
    (whole : inner ≠ .truncated → ∀ stage,
      Accord ending arrive (fun fuel => goOn fuel inner (arrive' stage))
        (fun limit => next limit stage)) :
    Accord ending arrive
      (fun fuel => (outcome fuel).unlessTruncated cut (goOn fuel))
      (fun limit => (rendered limit).unlessTruncated (next limit)) := by
  have cutShort (truncated : inner = .truncated) (stage : Stage ω) :
      Agrees ending arrive (.ended .truncated (cut (arrive' stage)))
        (some (.ok .truncated, stage) : Rendered ε ω) := by
    obtain ⟨rfl, same⟩ := short truncated
    rw [same]
    exact .ended stage
  refine ⟨fun more => (accord.settles more).unlessTruncated cut (onward more), ?_, ?_⟩
  · intro fuel limit enough
    rcases accord.sound fuel limit enough with none | agrees
    · exact .inl (by simp only [none, Outcome.unlessTruncated])
    · exact agrees.unlessTruncated
        (motive := fun outcome rendered =>
          outcome = .unfinished ∨ Agrees ending arrive outcome rendered)
        (fun truncated stage => .inr (cutShort truncated stage))
        (fun passed stage => (whole passed stage).sound fuel limit enough)
        (fun failure progress => .inr (.failed failure progress))
  · intro limit
    rcases accord.complete limit with none | ⟨fuel, agrees⟩
    · exact .inl (by simp only [none, Rendered.unlessTruncated])
    · rcases agrees.elim with ⟨stage, out, result⟩ | ⟨failure, progress, out, result⟩
      · by_cases truncated : inner = .truncated
        · refine .inr ⟨fuel, ?_⟩
          rw [out, result, truncated]
          exact cutShort truncated stage
        · rw [result, Rendered.unlessTruncated_ok truncated]
          rcases (whole truncated stage).complete limit with none | ⟨later, onwards⟩
          · exact .inl none
          · -- both parts of the way fit into the larger of their allowances
            have first := (accord.settles (Nat.le_max_left fuel later)).eq_of_finished
              agrees.finished
            have second := ((whole truncated stage).settles
              (Nat.le_max_right fuel later)).eq_of_finished onwards.finished
            refine .inr ⟨max fuel later, ?_⟩
            rw [first, out, Outcome.unlessTruncated_ended truncated, second]
            exact onwards
      · refine .inr ⟨fuel, ?_⟩
        rw [out, result]
        exact .failed failure progress

end Accord
end SiteIndex.Template

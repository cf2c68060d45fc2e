import SiteIndex.Proofs.Template.Keeping
import SiteIndex.Proofs.Template.TwoPhases

/-!
What an expansion leaves of its depth. One that comes to an end leaves its level; one that fails stays
on the level on which it failed, or on a deeper one, and still remembers where the outermost level
began. So a template is never back outside every body after a failure.
-/

namespace SiteIndex.Template

open SiteIndex.Text

variable {ε ω : Type}

/-- An outcome that still remembers where the outermost level began: at the end on level `settled`,
after a failure on level `least` or a deeper one. -/
inductive Outcome.Unwound (rewindPoint settled least : Nat) : Outcome ε ω → Prop
  | ended (ending : Ending) {progress : Progress ω} (memory : progress.rewindPoint = rewindPoint)
      (depth : progress.depth = settled) : Unwound rewindPoint settled least (.ended ending progress)
  | failed (failure : ε) {progress : Progress ω} (memory : progress.rewindPoint = rewindPoint)
      (depth : least ≤ progress.depth) :
      Unwound rewindPoint settled least (.failed failure progress)
  | unfinished : Unwound rewindPoint settled least .unfinished

section
variable (host : Host ε ω)

theorem unwinding (rewindPoint : Nat) :
    Keeping host (fun depth progress => progress.rewindPoint = rewindPoint ∧ progress.depth = depth)
      fun least _ progress => progress.rewindPoint = rewindPoint ∧ least ≤ progress.depth where
  moveTo _ on := on
  report _ on := on
  enter positive on := by
    have inBody : _ ≠ 0 := on.2 ▸ Nat.ne_of_gt positive
    exact ⟨by rw [enter_rewindPoint, if_neg inBody, on.1], by rw [enter_depth, on.2]⟩
  leave on := ⟨on.1, congrArg (· - 1) on.2⟩
  divide outermost on := ⟨on.1, by rw [← on.2, outermost]⟩
  write _ on := on
  call _ on := on
  writeFails _ on := ⟨on.1, Nat.le_of_eq on.2.symm⟩
  callFails _ on := ⟨on.1, Nat.le_of_eq on.2.symm⟩
  outward broken := ⟨broken.1, Nat.le_of_succ_le broken.2⟩

theorem expandItems_unwound (layout : Layout) (suppressed : Bool) (fuel : Nat) (pending : String)
    {progress : Progress ω} (positive : 0 < progress.depth) :
    (expandItems host layout suppressed fuel pending progress).Unwound progress.rewindPoint
      (progress.depth - 1) progress.depth := by
  have kept := ((unwinding host progress.rewindPoint).levels layout fuel).1 suppressed pending positive
    ⟨rfl, rfl⟩
  cases outcome : expandItems host layout suppressed fuel pending progress with
  | ended ending left =>
      rw [outcome] at kept
      exact .ended ending kept.1 kept.2
  | failed failure broken =>
      rw [outcome] at kept
      exact .failed failure kept.1 kept.2
  | unfinished => exact .unfinished

section
variable {fuel : Nat} {suppressed : Bool} {template broken : Template} {world left : ω} {failure : ε}

/-- A template is left inside of what it was being expanded in when the failure struck. -/
theorem expand_broken
    (failed : template.expand host fuel suppressed world = some (.error failure, broken, left)) :
    broken.source = template.source ∧ broken.layout = template.layout ∧
      broken.rewindPoint =
        (if template.depth = 0 then template.standing.offset else template.rewindPoint) ∧
      template.depth < broken.depth := by
  have level : (template.progress world).enter.depth = template.depth + 1 := enter_depth _
  have unwound := expandItems_unwound host template.layout suppressed fuel ""
    (Nat.lt_of_lt_of_eq template.depth.succ_pos level.symm)
  have memory : (template.progress world).enter.rewindPoint =
      if template.depth = 0 then template.standing.offset else template.rewindPoint := by
    rw [enter_rewindPoint]
    rfl
  rw [memory, level] at unwound
  unfold expand at failed
  revert failed
  generalize expandItems host _ _ _ _ _ = outcome at unwound
  cases unwound with
  | ended ending _ _ => exact fun failed => nomatch failed
  | unfinished => exact fun failed => nomatch failed
  | failed failure memory depth =>
      intro failed
      cases failed
      exact ⟨rfl, rfl, memory, depth⟩

/-- Nothing is forgotten but how to get out of there. -/
theorem expand_failed (outermost : template.depth = 0)
    (failed : template.expand host fuel suppressed world = some (.error failure, broken, left)) :
    broken.source = template.source ∧ broken.layout = template.layout ∧
      broken.rewindPoint = template.standing.offset ∧ 0 < broken.depth := by
  obtain ⟨source, layout, memory, deep⟩ := expand_broken host failed
  rw [if_pos outermost] at memory
  exact ⟨source, layout, memory, outermost ▸ deep⟩

end

end

/-- Where an expansion starts, it can start again. -/
theorem standing_eq_skip (template : Template) :
    ∃ count, template.standing = (Place.start template.source.toList).skip count := by
  unfold standing
  cases found : Place.at? template.source.toList template.position with
  | none => exact ⟨_, Place.toEnd_eq_skip _⟩
  | some place => exact Place.skip_of_at? found

theorem standing_of_offset {template later : Template} (same : later.source = template.source)
    (back : later.position = template.standing.offset) : later.standing = template.standing := by
  obtain ⟨count, standing⟩ := template.standing_eq_skip
  rw [standing] at back ⊢
  unfold Template.standing
  rw [same, back, Place.at?_start_skip]
  rfl

end SiteIndex.Template

import SiteIndex.Proofs.Template.Keeping
import SiteIndex.Proofs.Template.Quiet

/-!
What an expansion can fail with. Nothing in a template makes it fail; a failure is always that of a write.
-/

namespace SiteIndex.Template

section
variable {ε ω : Type} {fits : ε → Prop}

def Outcome.FailsOnly (fits : ε → Prop) : Outcome ε ω → Prop
  | .failed failure _ => fits failure
  | .ended .. | .unfinished => True

structure Host.FailsOnly (host : Host ε ω) (fits : ε → Prop) : Prop where
  write : ∀ {bytes world failure later}, host.write bytes world = (.error failure, later) →
    fits failure
  call : ∀ {widget repeating world failure later},
    host.call widget repeating world = (.error failure, later) → fits failure

variable {host : Host ε ω} (only : host.FailsOnly fits)
include only

theorem Host.FailsOnly.keeping :
    Keeping host (fun _ _ => True) fun _ failure _ => fits failure where
  moveTo _ := id
  report _ := id
  enter _ := id
  leave := id
  divide _ := id
  write _ := id
  call _ := id
  writeFails failed _ := only.write failed
  callFails failed _ := only.call failed
  outward := id

theorem expandItems_failsOnly (layout : Layout) (suppressed : Bool) (fuel : Nat) (pending : String)
    (progress : Progress ω) :
    (expandItems host layout suppressed fuel pending progress).FailsOnly fits := by
  have kept : (expandItems host layout suppressed fuel pending progress).Meets _ _ :=
    (only.keeping.levels layout fuel).1 suppressed pending Nat.one_pos trivial
  cases outcome : expandItems host layout suppressed fuel pending progress with
  | failed failure broken =>
    rw [outcome] at kept
    exact kept
  | ended | unfinished => trivial

theorem expand_failsOnly {fuel : Nat} {suppressed : Bool} {template broken : Template}
    {world left : ω} {failure : ε}
    (failed : template.expand host fuel suppressed world = some (.error failure, broken, left)) :
    fits failure := by
  have known := expandItems_failsOnly only template.layout suppressed fuel ""
    (template.progress world).enter
  unfold expand at failed
  split at failed <;> cases failed
  next ended =>
  rw [ended] at known
  exact known

end

section
variable {ε σ α β : Type} {fits : ε → Prop} {sink : Sink ε σ} {context : Context}

def Action.FailsOnly (fits : ε → Prop) (action : Action ε σ α) : Prop :=
  ∀ scene failure later, action scene = (.error failure, later) → fits failure

theorem Action.FailsOnly.bind {action : Action ε σ α} {next : α → Action ε σ β}
    (first : action.FailsOnly fits) (second : ∀ value, (next value).FailsOnly fits) :
    (action >>= next).FailsOnly fits := by
  intro scene failure later failed
  rw [Action.bind_apply] at failed
  split at failed
  · exact second _ _ _ _ failed
  · next early =>
    cases failed
    exact first _ _ _ early

variable (only : ∀ bytes out failure later, sink.write bytes out = (.error failure, later) →
  fits failure)
include only

theorem writeBytes_failsOnly (bytes : ByteArray) :
    (Action.writeBytes sink bytes).FailsOnly fits := by
  intro scene failure later failed
  unfold Action.writeBytes at failed
  split at failed
  · cases failed
  · obtain ⟨same, -⟩ := Prod.mk.inj failed
    exact only bytes scene.out failure _ (Prod.ext same rfl)

/-- What is put together from writes and looks fails only as a write does. -/
theorem Action.Composed.failsOnly {action : Action ε σ α}
    (composed : Action.Composed sink context action) : action.FailsOnly fits := by
  induction composed with
  | pure value => exact nofun
  | bind _ _ first second => exact first.bind second
  | write bytes => exact writeBytes_failsOnly only bytes
  | files | snapshot | levels => exact nofun

theorem writeText_asks_failsOnly (text : String) :
    (Action.writeText sink text >>= fun _ => pure true : Action ε σ Bool).FailsOnly fits :=
  (writeBytes_failsOnly only text.toUTF8).bind fun _ => nofun

theorem answer_failsOnly (widget : Widget) (repeating : Bool) :
    (answer sink context widget repeating).FailsOnly fits := by
  by_cases once : widget.repeats = false
  · exact Action.Composed.failsOnly only (plain_answer sink context once repeating).composed
  intro scene failure later failed
  cases widget with
  | files =>
    obtain ⟨same, -⟩ | ⟨_, _, _, _, _, same⟩ := answerFiles_cases context repeating scene <;>
      cases same.symm.trans failed
  | pwd =>
    change answerPwd sink context repeating scene = _ at failed
    cases directory : context.directory with
    | none => cases (answerPwd_none directory repeating scene).symm.trans failed
    | some id =>
      rw [answerPwd_eq directory] at failed
      split at failed
      · cases failed
      · exact writeText_asks_failsOnly only _ _ _ _ failed
  | root =>
    change answerRoot sink context repeating scene = _ at failed
    rw [answerRoot_eq] at failed
    split at failed
    · cases failed
    · exact writeText_asks_failsOnly only _ _ _ _ failed
  | _ => exact absurd rfl once

theorem sceneHost_failsOnly : (sceneHost sink context).FailsOnly fits where
  write failed := writeBytes_failsOnly only _ _ _ _ failed
  call failed := answer_failsOnly only _ _ _ _ _ failed

end
end SiteIndex.Template

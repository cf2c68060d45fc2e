import SiteIndex.Proofs.Template.Reading
import SiteIndex.Proofs.Template.Stepwise

/-!
What holds all through an expansion. A property of how far the expansion has come, told level by level, is
kept by a whole run as soon as each thing that is done on the way keeps it; and what the failure of a write
or of a call makes of it holds where the expansion has failed.
-/

namespace SiteIndex.Template

open SiteIndex.Text

variable {ε ω : Type}

/-- `Left` holds where the expansion has ended, `Broken` where it has failed. -/
def Outcome.Meets (Left : Progress ω → Prop) (Broken : ε → Progress ω → Prop) : Outcome ε ω → Prop
  | .ended _ progress => Left progress
  | .failed failure progress => Broken failure progress
  | .unfinished => True

theorem Outcome.Meets.mono {Left : Progress ω → Prop} {Broken Broken' : ε → Progress ω → Prop}
    {outcome : Outcome ε ω} (meets : outcome.Meets Left Broken)
    (weaker : ∀ {failure progress}, Broken failure progress → Broken' failure progress) :
    outcome.Meets Left Broken' := by
  cases outcome with
  | ended ending progress => exact meets
  | failed failure progress => exact weaker meets
  | unfinished => trivial

theorem Outcome.Meets.unlessTruncated {Inner Left : Progress ω → Prop} {Broken : ε → Progress ω → Prop}
    {outcome : Outcome ε ω} (meets : outcome.Meets Inner Broken) {cut : Progress ω → Progress ω}
    {goOn : Ending → Progress ω → Outcome ε ω}
    (short : ∀ {progress}, Inner progress → Left (cut progress))
    (onward : ∀ {ending progress}, Inner progress → (goOn ending progress).Meets Left Broken) :
    (outcome.unlessTruncated cut goOn).Meets Left Broken := by
  cases outcome with
  | ended ending progress =>
      cases ending with
      | truncated => exact short meets
      | _ => exact onward meets
  | failed failure progress => exact meets
  | unfinished => trivial

/-- `On depth` is kept by all that is done on the level `depth` and leads from level to level. `Broken depth`
holds once a write or a call has failed on that level or further down. -/
structure Keeping (host : Host ε ω) (On : Nat → Progress ω → Prop)
    (Broken : Nat → ε → Progress ω → Prop) : Prop where
  moveTo : ∀ {depth progress} (place : Place), On depth progress → On depth (progress.moveTo place)
  report : ∀ {depth progress} (diagnostic : Diagnostic), On depth progress →
    On depth (progress.report diagnostic)
  enter : ∀ {depth progress}, 0 < depth → On depth progress → On (depth + 1) progress.enter
  leave : ∀ {depth progress}, On depth progress → On (depth - 1) progress.leave
  /-- A separator leads out of the outermost level at once. -/
  divide : ∀ {depth progress}, progress.depth = 1 → On depth progress →
    On (depth - 1) { progress with depth := 0 }
  write : ∀ {depth progress bytes done world}, host.write bytes progress.world = (.ok done, world) →
    On depth progress → On depth { progress with world }
  call : ∀ {depth progress widget repeating again world},
    host.call widget repeating progress.world = (.ok again, world) →
      On depth progress → On depth { progress with world }
  writeFails : ∀ {depth progress bytes failure world},
    host.write bytes progress.world = (.error failure, world) →
      On depth progress → Broken depth failure { progress with world }
  callFails : ∀ {depth progress widget repeating failure world},
    host.call widget repeating progress.world = (.error failure, world) →
      On depth progress → Broken depth failure { progress with world }
  outward : ∀ {depth failure progress}, Broken (depth + 1) failure progress →
    Broken depth failure progress

namespace Keeping

variable {host : Host ε ω} {On : Nat → Progress ω → Prop} {Broken : Nat → ε → Progress ω → Prop}
  (keeping : Keeping host On Broken) {Left : Progress ω → Prop} {depth : Nat} {progress : Progress ω}
include keeping

theorem noteName (on : On depth progress) (name : String) (offset : Nat) :
    On depth (progress.noteName name offset) := by
  unfold Progress.noteName
  split
  · exact keeping.report _ on
  · exact on

theorem emit (depth : Nat) (on : On depth progress) {suppressed : Bool} {text : String}
    {goOn : Progress ω → Outcome ε ω}
    (onward : ∀ {world}, On depth { progress with world } →
      (goOn { progress with world }).Meets Left (Broken depth)) :
    (emit host suppressed text progress goOn).Meets Left (Broken depth) := by
  unfold Template.emit
  split
  · exact onward on
  · split
    · next written => exact onward (keeping.write written on)
    · next failed => exact keeping.writeFails failed on

theorem consult (depth : Nat) (on : On depth progress) {widget : Option Widget} {suppressed repeating : Bool}
    {goOn : Bool → Progress ω → Outcome ε ω}
    (onward : ∀ again {world}, On depth { progress with world } →
      (goOn again { progress with world }).Meets Left (Broken depth)) :
    (consult host widget suppressed repeating progress goOn).Meets Left (Broken depth) := by
  unfold Template.consult
  split
  · split
    · exact onward false on
    · split
      · next answered => exact onward _ (keeping.call answered on)
      · next failed => exact keeping.callFails failed on
  · exact onward false on

/-- What each step keeps, a run keeps: behind its items a level has been left, behind a body it is the one
that the body lies in. -/
theorem levels (layout : Layout) (fuel : Nat) :
    (∀ {depth} suppressed pending {progress}, 0 < depth → On depth progress →
      (expandItems host layout suppressed fuel pending progress).Meets (On (depth - 1))
        (Broken depth)) ∧
    (∀ {depth} suppressed widget repeating start {progress}, 0 < depth → On depth progress →
      (expandBody host layout suppressed fuel widget repeating start progress).Meets (On depth)
        (Broken depth)) := by
  induction fuel with
  | zero => exact ⟨fun _ _ _ _ _ => trivial, fun _ _ _ _ _ _ _ => trivial⟩
  | succ fuel ih =>
      obtain ⟨items, body⟩ := ih
      constructor
      · intro depth suppressed pending progress positive on
        rw [expandItems_succ]
        dsimp only
        split
        case h_1 => exact items _ _ positive (keeping.moveTo _ on)
        case h_2 | h_3 => exact keeping.emit depth on fun on => keeping.leave (keeping.moveTo _ on)
        case h_4 acting =>
            exact keeping.emit depth on fun on =>
              keeping.divide (Sign.depth_of_acting_separator acting) (keeping.moveTo _ on)
        case h_5 =>
            refine keeping.emit depth on fun on => ?_
            exact keeping.emit depth (keeping.report _ on) fun on => keeping.leave (keeping.moveTo _ on)
        case h_6 name resume _ =>
            refine keeping.emit depth on fun on => ?_
            have noted := keeping.noteName on name (nextSpecial progress.place).offset
            exact (body _ _ _ _ positive noted).unlessTruncated keeping.leave
              fun on => items _ _ positive on
        case h_7 name resume _ =>
            refine keeping.emit depth on fun on => ?_
            have noted := keeping.noteName on name (nextSpecial progress.place).offset
            exact keeping.consult depth noted fun _ _ on => items _ _ positive (keeping.moveTo _ on)
      · intro depth suppressed widget repeating start progress positive on
        rw [expandBody_succ]
        refine keeping.consult depth on fun again _ on => ?_
        have entered := items (suppressed || !again) "" (Nat.succ_pos depth)
          (keeping.enter positive (keeping.moveTo start on))
        refine (entered.mono keeping.outward).unlessTruncated id fun on => ?_
        cases again with
        | true => exact body _ _ _ _ positive on
        | false => exact on

end Keeping
end SiteIndex.Template

import SiteIndex.Template.Basic

/-!
One step of an expansion at a time. An expansion that has an allowance left does what the sign before
it asks for; a body is consulted, gone through once, and then left or begun again. A larger allowance
never changes the result of an expansion that has one, so an expansion that ends has one result.
-/

namespace SiteIndex.Template

open SiteIndex.Text

variable {ε ω : Type}

/-- The progress at an invocation: a name that no widget goes by is reported. -/
def Progress.noteName (progress : Progress ω) (name : String) (offset : Nat) : Progress ω :=
  if (Widget.ofName? name).isNone then progress.report (.unknownSymbol name offset) else progress

/-- Goes on from where a body has ended, unless the text has been cut short in it. -/
def Outcome.unlessTruncated (cut : Progress ω → Progress ω)
    (goOn : Ending → Progress ω → Outcome ε ω) : Outcome ε ω → Outcome ε ω
  | .ended .truncated progress => .ended .truncated (cut progress)
  | .ended ending progress => goOn ending progress
  | .failed failure progress => .failed failure progress
  | .unfinished => .unfinished

section
variable (host : Host ε ω) (layout : Layout)

theorem expandItems_succ (suppressed : Bool) (fuel : Nat) (pending : String)
    (progress : Progress ω) :
    expandItems host layout suppressed (fuel + 1) pending progress =
      let text := pending ++ String.ofList (progress.place.run fun c => !isSpecial c)
      let here := nextSpecial progress.place
      match (signAt here).acting layout progress.depth with
      | .plain =>
          expandItems host layout suppressed fuel (text ++ String.ofList (here.rest.take 1))
            (progress.moveTo (here.skip 1))
      | .endOfText =>
          emit host suppressed text progress fun progress =>
            .ended .finished (progress.moveTo here).leave
      | .closing =>
          emit host suppressed text progress fun progress =>
            .ended .finished (progress.moveTo (here.skip 1)).leave
      | .separator =>
          emit host suppressed text progress fun progress =>
            .ended .sectionBoundary { progress.moveTo (here.skip 2) with depth := 0 }
      | .unterminated =>
          emit host suppressed text progress fun progress =>
            emit host suppressed (String.ofList here.rest)
                (progress.report (.unterminatedInvocation here.offset)) fun progress =>
              .ended .truncated (progress.moveTo here.toEnd).leave
      | .invocation name true resume =>
          emit host suppressed text progress fun progress =>
            (expandBody host layout suppressed fuel (Widget.ofName? name) false resume
                (progress.noteName name here.offset)).unlessTruncated Progress.leave
              fun _ progress => expandItems host layout suppressed fuel "" progress
      | .invocation name false resume =>
          emit host suppressed text progress fun progress =>
            consult host (Widget.ofName? name) suppressed false
                (progress.noteName name here.offset) fun _ progress =>
              expandItems host layout suppressed fuel "" (progress.moveTo resume) := by
  rw [expandItems]
  dsimp only
  cases (signAt (nextSpecial progress.place)).acting layout progress.depth with
  | invocation name hasBody resume =>
      cases hasBody with
      | false => rfl
      | true =>
          simp only [if_true]
          congr 1
          funext progress
          unfold Progress.noteName
          generalize expandBody host layout suppressed fuel _ _ _ _ = outcome
          cases outcome with
          | ended ending _ => cases ending <;> rfl
          | _ => rfl
  | _ => rfl

theorem expandBody_succ (suppressed : Bool) (fuel : Nat) (widget : Option Widget)
    (repeating : Bool) (start : Place) (progress : Progress ω) :
    expandBody host layout suppressed (fuel + 1) widget repeating start progress =
      consult host widget suppressed repeating progress fun again progress =>
        (expandItems host layout (suppressed || !again) fuel ""
            (progress.moveTo start).enter).unlessTruncated id fun ending progress =>
          if again then expandBody host layout suppressed fuel widget true start progress
          else .ended ending progress := by
  rw [expandBody]
  congr 1
  funext again progress
  cases expandItems host layout (suppressed || !again) fuel ""
      (progress.moveTo start).enter with
  | ended ending _ => cases ending <;> rfl
  | _ => rfl

end

/-- The second outcome is the first, unless the first is none yet. -/
def Outcome.Settles (early late : Outcome ε ω) : Prop :=
  early = .unfinished ∨ late = early

namespace Outcome.Settles

theorem refl (outcome : Outcome ε ω) : outcome.Settles outcome := .inr rfl

theorem trans {first second third : Outcome ε ω} (early : first.Settles second)
    (late : second.Settles third) : first.Settles third := by
  rcases early with none | rfl
  · exact .inl none
  · exact late

theorem eq_of_finished {early late : Outcome ε ω} (settles : early.Settles late)
    (finished : early ≠ .unfinished) : late = early :=
  settles.resolve_left finished

theorem unlessTruncated {first second : Outcome ε ω} (settles : first.Settles second)
    (cut : Progress ω → Progress ω) {early late : Ending → Progress ω → Outcome ε ω}
    (onward : ∀ ending progress, (early ending progress).Settles (late ending progress)) :
    (first.unlessTruncated cut early).Settles (second.unlessTruncated cut late) := by
  rcases settles with rfl | rfl
  · exact .inl rfl
  · cases second with
    | ended ending progress =>
        cases ending with
        | truncated => exact .refl _
        | _ => exact onward _ _
    | _ => exact .refl _

end Outcome.Settles

section
variable (host : Host ε ω)

theorem emit_settles (suppressed : Bool) (text : String) (progress : Progress ω)
    {early late : Progress ω → Outcome ε ω}
    (onward : ∀ progress, (early progress).Settles (late progress)) :
    (emit host suppressed text progress early).Settles
      (emit host suppressed text progress late) := by
  unfold emit
  split
  · exact onward progress
  · split
    · exact onward _
    · exact .refl _

theorem consult_settles (widget : Option Widget) (suppressed repeating : Bool)
    (progress : Progress ω) {early late : Bool → Progress ω → Outcome ε ω}
    (onward : ∀ again progress, (early again progress).Settles (late again progress)) :
    (consult host widget suppressed repeating progress early).Settles
      (consult host widget suppressed repeating progress late) := by
  unfold consult
  split
  · split
    · exact onward _ _
    · split
      · exact onward _ _
      · exact .refl _
  · exact onward _ _

/-- One more step of allowance changes no result that is there without it. -/
theorem expand_settles_succ (layout : Layout) (fuel : Nat) :
    (∀ suppressed pending progress,
      (expandItems host layout suppressed fuel pending progress).Settles
        (expandItems host layout suppressed (fuel + 1) pending progress)) ∧
    (∀ suppressed widget repeating start progress,
      (expandBody host layout suppressed fuel widget repeating start progress).Settles
        (expandBody host layout suppressed (fuel + 1) widget repeating start progress)) := by
  induction fuel with
  | zero => exact ⟨fun _ _ _ => .inl rfl, fun _ _ _ _ _ => .inl rfl⟩
  | succ fuel ih =>
      obtain ⟨items, body⟩ := ih
      constructor
      · intro suppressed pending progress
        rw [expandItems_succ, expandItems_succ]
        dsimp only
        split
        case h_1 => exact items _ _ _
        case h_6 =>
            refine emit_settles host _ _ _ fun progress => ?_
            exact (body _ _ _ _ _).unlessTruncated _ fun _ _ => items _ _ _
        case h_7 =>
            refine emit_settles host _ _ _ fun progress => ?_
            exact consult_settles host _ _ _ _ fun _ _ => items _ _ _
        all_goals exact .refl _
      · intro suppressed widget repeating start progress
        rw [expandBody_succ, expandBody_succ]
        refine consult_settles host _ _ _ _ fun again progress => ?_
        refine (items _ _ _).unlessTruncated _ fun ending progress => ?_
        cases again with
        | true => exact body _ _ _ _ _
        | false => exact .refl _

theorem expandItems_settles (layout : Layout) (suppressed : Bool) {fuel fuel' : Nat}
    (more : fuel ≤ fuel') (pending : String) (progress : Progress ω) :
    (expandItems host layout suppressed fuel pending progress).Settles
      (expandItems host layout suppressed fuel' pending progress) := by
  induction more with
  | refl => exact .refl _
  | step _ ih => exact ih.trans ((expand_settles_succ host layout _).1 _ _ _)

theorem expandBody_settles (layout : Layout) (suppressed : Bool) {fuel fuel' : Nat}
    (more : fuel ≤ fuel') (widget : Option Widget) (repeating : Bool) (start : Place)
    (progress : Progress ω) :
    (expandBody host layout suppressed fuel widget repeating start progress).Settles
      (expandBody host layout suppressed fuel' widget repeating start progress) := by
  induction more with
  | refl => exact .refl _
  | step _ ih => exact ih.trans ((expand_settles_succ host layout _).2 _ _ _ _ _)

/-- What is done with a place comes to one end at the most. -/
theorem expandItems_unique {layout : Layout} {suppressed : Bool} {fuel fuel' : Nat} {pending : String}
    {progress : Progress ω} {first second : Outcome ε ω}
    (ended : expandItems host layout suppressed fuel pending progress = first)
    (ended' : expandItems host layout suppressed fuel' pending progress = second)
    (finished : first ≠ .unfinished) (finished' : second ≠ .unfinished) : first = second := by
  have early := (expandItems_settles host layout suppressed (Nat.le_max_left fuel fuel') pending
    progress).eq_of_finished (by rwa [ended])
  have late := (expandItems_settles host layout suppressed (Nat.le_max_right fuel fuel') pending
    progress).eq_of_finished (by rwa [ended'])
  rw [← ended, ← ended', ← early, ← late]

/-- A larger allowance gives the same result. -/
theorem expand_mono (suppressed : Bool) (template : Template) (world : ω) {fuel fuel' : Nat}
    (more : fuel ≤ fuel') {result : Except ε Ending × Template × ω}
    (ended : template.expand host fuel suppressed world = some result) :
    template.expand host fuel' suppressed world = some result := by
  unfold Template.expand at ended ⊢
  have settles := expandItems_settles host template.layout suppressed more ""
    (template.progress world).enter
  rw [settles.eq_of_finished (by intro none; rw [none] at ended; cases ended)]
  exact ended

/-- An expansion has one result at the most. -/
theorem expand_unique (suppressed : Bool) (template : Template) (world : ω) {fuel fuel' : Nat}
    {first second : Except ε Ending × Template × ω}
    (ended : template.expand host fuel suppressed world = some first)
    (ended' : template.expand host fuel' suppressed world = some second) : first = second := by
  have early := expand_mono host suppressed template world (Nat.le_max_left fuel fuel') ended
  have late := expand_mono host suppressed template world (Nat.le_max_right fuel fuel') ended'
  exact Option.some.inj (early.symm.trans late)

end
end SiteIndex.Template

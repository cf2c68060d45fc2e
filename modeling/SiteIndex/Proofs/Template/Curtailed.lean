import SiteIndex.Proofs.Template.Alongside
import SiteIndex.Proofs.Template.Keeping

/-!
An expansion beside the same one in a host that comes to fail. Both go the same way up to the failure, which
stops the second one on all its levels at once. Whatever the first one does from then on comes behind what the
two have done.
-/

namespace SiteIndex.Template

variable {ε α ω ω' : Type}

section
variable {After : ω → Array Diagnostic → Prop}

def Progress.Has (After : ω → Array Diagnostic → Prop) (progress : Progress ω) : Prop :=
  After progress.world progress.diagnostics

theorem Progress.Has.moveTo {progress : Progress ω} (has : progress.Has After) (place : Text.Place) :
    (progress.moveTo place).Has After := has

/-- Holds where the expansion has stopped, if it has. -/
def Outcome.Reaches (After : ω → Array Diagnostic → Prop) : Outcome ε ω → Prop
  | .ended _ progress | .failed _ progress => progress.Has After
  | .unfinished => True

/-- What lasts whatever is written, called and reported. -/
structure Lasting (host : Host ε ω) (After : ω → Array Diagnostic → Prop) : Prop where
  write : ∀ {world diagnostics} (bytes : ByteArray), After world diagnostics →
    After (host.write bytes world).2 diagnostics
  call : ∀ {world diagnostics} (widget : Widget) (repeating : Bool), After world diagnostics →
    After (host.call widget repeating world).2 diagnostics
  report : ∀ {world diagnostics} (diagnostic : Diagnostic), After world diagnostics →
    After world (diagnostics.push diagnostic)

variable {host : Host ε ω} (lasting : Lasting host After)
include lasting

theorem Lasting.reported {progress : Progress ω} (has : progress.Has After) (diagnostic : Diagnostic) :
    (progress.report diagnostic).Has After :=
  lasting.report diagnostic has

theorem Lasting.enter {progress : Progress ω} (has : progress.Has After) : progress.enter.Has After := by
  unfold Progress.enter
  dsimp only
  split
  · exact lasting.report _ has
  · exact has

/-- On all levels alike it lasts. -/
theorem Lasting.keeping :
    Keeping host (fun _ progress => progress.Has After) fun _ (_ : ε) progress => progress.Has After where
  moveTo _ has := has
  report := lasting.report
  enter _ has := lasting.enter has
  leave has := has
  divide _ has := has
  write {_ progress bytes _ _} written has := by
    have lasts := lasting.write bytes has
    rwa [written] at lasts
  call {_ progress widget repeating _ _} called has := by
    have lasts := lasting.call widget repeating has
    rwa [called] at lasts
  writeFails {_ progress bytes _ _} failed has := by
    have lasts := lasting.write bytes has
    rwa [failed] at lasts
  callFails {_ progress widget repeating _ _} failed has := by
    have lasts := lasting.call widget repeating has
    rwa [failed] at lasts
  outward := id

theorem Lasting.noteName {progress : Progress ω} (has : progress.Has After) (name : String)
    (offset : Nat) : (progress.noteName name offset).Has After := by
  unfold Progress.noteName
  split
  · exact lasting.report _ has
  · exact has

omit lasting in
theorem Outcome.reaches_iff {outcome : Outcome ε ω} :
    outcome.Reaches After ↔ outcome.Meets (·.Has After) fun _ progress => progress.Has After := by
  cases outcome <;> rfl

theorem emit_reaches {suppressed : Bool} {text : String} {progress : Progress ω}
    (has : progress.Has After) {goOn : Progress ω → Outcome ε ω}
    (onward : ∀ {world}, (progress.inWorld world).Has After → (goOn (progress.inWorld world)).Reaches After) :
    (emit host suppressed text progress goOn).Reaches After :=
  Outcome.reaches_iff.mpr <| lasting.keeping.emit 0 has fun has => Outcome.reaches_iff.mp (onward has)

theorem consult_reaches {widget : Option Widget} {suppressed repeating : Bool} {progress : Progress ω}
    (has : progress.Has After) {goOn : Bool → Progress ω → Outcome ε ω}
    (onward : ∀ again {world}, (progress.inWorld world).Has After →
      (goOn again (progress.inWorld world)).Reaches After) :
    (consult host widget suppressed repeating progress goOn).Reaches After :=
  Outcome.reaches_iff.mpr <| lasting.keeping.consult 0 has fun again _ has =>
    Outcome.reaches_iff.mp (onward again has)

omit lasting in
theorem Outcome.Reaches.unlessTruncated {outcome : Outcome ε ω} (reaches : outcome.Reaches After)
    {cut : Progress ω → Progress ω} {goOn : Ending → Progress ω → Outcome ε ω}
    (short : ∀ {progress}, progress.Has After → (cut progress).Has After)
    (onward : ∀ {ending progress}, progress.Has After → (goOn ending progress).Reaches After) :
    (outcome.unlessTruncated cut goOn).Reaches After :=
  reaches_iff.mpr <| (reaches_iff.mp reaches).unlessTruncated short fun has =>
    reaches_iff.mp (onward has)

theorem expandItems_reaches (layout : Layout) (suppressed : Bool) (fuel : Nat) (pending : String)
    {progress : Progress ω} (has : progress.Has After) :
    (expandItems host layout suppressed fuel pending progress).Reaches After :=
  Outcome.reaches_iff.mpr <|
    (lasting.keeping.levels layout fuel).1 suppressed pending Nat.one_pos has

theorem expandBody_reaches (layout : Layout) (suppressed : Bool) (fuel : Nat) (widget : Option Widget)
    (repeating : Bool) (start : Text.Place) {progress : Progress ω} (has : progress.Has After) :
    (expandBody host layout suppressed fuel widget repeating start progress).Reaches After :=
  Outcome.reaches_iff.mpr <|
    (lasting.keeping.levels layout fuel).2 suppressed widget repeating start Nat.one_pos has

theorem block_reaches (layout : Layout) (suppressed : Bool) (fuel : Nat) (name : String) (offset : Nat)
    (resume : Text.Place) {progress : Progress ω} (has : progress.Has After) :
    ((expandBody host layout suppressed fuel (Widget.ofName? name) false resume
        (progress.noteName name offset)).unlessTruncated Progress.leave fun _ progress =>
      expandItems host layout suppressed fuel "" progress).Reaches After := by
  have noted := lasting.noteName has name offset
  exact (expandBody_reaches lasting _ _ _ _ _ _ noted).unlessTruncated id fun has =>
    expandItems_reaches lasting _ _ _ _ has

theorem call_reaches (layout : Layout) (suppressed : Bool) (fuel : Nat) (name : String) (offset : Nat)
    (resume : Text.Place) {progress : Progress ω} (has : progress.Has After) :
    (consult host (Widget.ofName? name) suppressed false (progress.noteName name offset)
      fun _ progress => expandItems host layout suppressed fuel "" (progress.moveTo resume)).Reaches
        After := by
  have noted := lasting.noteName has name offset
  exact consult_reaches lasting noted fun _ _ has => expandItems_reaches lasting _ _ _ _ has

/-- From an answer of a widget on. -/
theorem pass_reaches (layout : Layout) (suppressed : Bool) (fuel : Nat) (widget : Option Widget)
    (again : Bool) (start : Text.Place) {progress : Progress ω} (has : progress.Has After) :
    ((expandItems host layout (suppressed || !again) fuel ""
        (progress.moveTo start).enter).unlessTruncated id fun ending progress =>
      if again then expandBody host layout suppressed fuel widget true start progress
      else .ended ending progress).Reaches After := by
  have entered := expandItems_reaches lasting layout (suppressed || !again) fuel ""
    (lasting.enter (has.moveTo start))
  refine entered.unlessTruncated id fun has => ?_
  cases again with
  | true => exact expandBody_reaches lasting _ _ _ _ _ _ has
  | false => exact has

end

/-- Two answers that are the same, or the second of which fails. -/
inductive Curtailed (Whole Short : ω → ω' → Prop) : Except ε α × ω → Except ε α × ω' → Prop
  | same {value : α} {world : ω} {world' : ω'} (whole : Whole world world') :
      Curtailed Whole Short (.ok value, world) (.ok value, world')
  | stopped {answer : Except ε α × ω} (failure : ε) {world' : ω'} (short : Short answer.2 world') :
      Curtailed Whole Short answer (.error failure, world')

/-- The second host does as the first does until it fails. What holds then goes on to hold while the first
one goes on. -/
structure Curtails (host : Host ε ω) (host' : Host ε ω') (Whole Short : ω → ω' → Prop) : Prop where
  write : ∀ {world world'} (bytes : ByteArray), Whole world world' →
    Curtailed Whole Short (host.write bytes world) (host'.write bytes world')
  call : ∀ {world world'} (widget : Widget) (repeating : Bool), Whole world world' →
    Curtailed Whole Short (host.call widget repeating world) (host'.call widget repeating world')
  writeOn : ∀ {world world'} (bytes : ByteArray), Short world world' →
    Short (host.write bytes world).2 world'
  callOn : ∀ {world world'} (widget : Widget) (repeating : Bool), Short world world' →
    Short (host.call widget repeating world).2 world'

/-- Beyond the point where another expansion has been stopped. -/
def Progress.Past (Short : ω → ω' → Prop) (stopped : Progress ω') (world : ω)
    (diagnostics : Array Diagnostic) : Prop :=
  Short world stopped.world ∧ stopped.diagnostics.toList <+: diagnostics.toList

/-- Two outcomes that are the same, or the second of which has been stopped by a failure on the way to the
first. -/
inductive Outcome.Curtailed (Whole Short : ω → ω' → Prop) : Outcome ε ω → Outcome ε ω' → Prop
  | ended (ending : Ending) {progress : Progress ω} {world' : ω'} (whole : Whole progress.world world') :
      Curtailed Whole Short (.ended ending progress) (.ended ending (progress.inWorld world'))
  | stopped {outcome : Outcome ε ω} (failure : ε) (stopped : Progress ω')
      (further : outcome.Reaches (stopped.Past Short)) :
      Curtailed Whole Short outcome (.failed failure stopped)
  | unfinished : Curtailed Whole Short .unfinished .unfinished

section
variable {host : Host ε ω} {host' : Host ε ω'} {Whole Short : ω → ω' → Prop}

theorem Curtails.lasting (curtails : Curtails host host' Whole Short) (stopped : Progress ω') :
    Lasting host (stopped.Past Short) where
  write bytes past := ⟨curtails.writeOn bytes past.1, past.2⟩
  call widget repeating past := ⟨curtails.callOn widget repeating past.1, past.2⟩
  report diagnostic past := by
    refine ⟨past.1, past.2.trans ?_⟩
    rw [Array.toList_push]
    exact List.prefix_append _ _

theorem Outcome.Curtailed.unlessTruncated {outcome : Outcome ε ω} {outcome' : Outcome ε ω'}
    (curtailed : outcome.Curtailed Whole Short outcome')
    {cut : Progress ω → Progress ω} {cut' : Progress ω' → Progress ω'}
    {goOn : Ending → Progress ω → Outcome ε ω} {goOn' : Ending → Progress ω' → Outcome ε ω'}
    (short : ∀ {progress : Progress ω} {world'}, Whole progress.world world' →
      Curtailed (ε := ε) Whole Short (.ended .truncated (cut progress))
        (.ended .truncated (cut' (progress.inWorld world'))))
    (onward : ∀ {ending progress world'}, Whole progress.world world' →
      (goOn ending progress).Curtailed Whole Short (goOn' ending (progress.inWorld world')))
    (further : ∀ {stopped : Progress ω'}, outcome.Reaches (stopped.Past Short) →
      (outcome.unlessTruncated cut goOn).Reaches (stopped.Past Short)) :
    (outcome.unlessTruncated cut goOn).Curtailed Whole Short (outcome'.unlessTruncated cut' goOn') := by
  cases curtailed with
  | ended ending whole =>
      cases ending with
      | truncated => exact short whole
      | _ => exact onward whole
  | stopped failure stopped past => exact .stopped failure stopped (further past)
  | unfinished => exact .unfinished

variable (curtails : Curtails host host' Whole Short)
include curtails

theorem emit_curtailed (suppressed : Bool) (text : String) (progress : Progress ω) {world' : ω'}
    (whole : Whole progress.world world') {goOn : Progress ω → Outcome ε ω}
    {goOn' : Progress ω' → Outcome ε ω'}
    (onward : ∀ {world world'}, Whole world world' →
      (goOn (progress.inWorld world)).Curtailed Whole Short (goOn' (progress.inWorld world')))
    (further : ∀ {After : ω → Array Diagnostic → Prop}, Lasting host After → ∀ {world},
      (progress.inWorld world).Has After → (goOn (progress.inWorld world)).Reaches After) :
    (emit host suppressed text progress goOn).Curtailed Whole Short
      (emit host' suppressed text (progress.inWorld world') goOn') := by
  unfold emit
  split
  · exact onward whole
  · have answers := curtails.write text.toUTF8 whole
    dsimp only [Progress.inWorld] at onward further ⊢
    revert answers
    generalize host.write text.toUTF8 progress.world = answer
    generalize host'.write text.toUTF8 world' = answer'
    intro answers
    cases answers with
    | same whole => exact onward whole
    | @stopped _ failure world' short =>
        have past : (progress.inWorld world').Past Short answer.2 progress.diagnostics :=
          ⟨short, List.prefix_refl _⟩
        refine .stopped failure (progress.inWorld world') ?_
        rcases answer with ⟨broken | _, world⟩
        · exact past
        · exact further (curtails.lasting _) past

theorem consult_curtailed (widget : Option Widget) (suppressed repeating : Bool) (progress : Progress ω)
    {world' : ω'} (whole : Whole progress.world world') {goOn : Bool → Progress ω → Outcome ε ω}
    {goOn' : Bool → Progress ω' → Outcome ε ω'}
    (onward : ∀ again {world world'}, Whole world world' →
      (goOn again (progress.inWorld world)).Curtailed Whole Short
        (goOn' again (progress.inWorld world')))
    (further : ∀ {After : ω → Array Diagnostic → Prop}, Lasting host After → ∀ again {world},
      (progress.inWorld world).Has After → (goOn again (progress.inWorld world)).Reaches After) :
    (consult host widget suppressed repeating progress goOn).Curtailed Whole Short
      (consult host' widget suppressed repeating (progress.inWorld world') goOn') := by
  unfold consult
  cases widget with
  | none => exact onward false whole
  | some widget =>
      dsimp only
      split
      · exact onward false whole
      · have answers := curtails.call widget repeating whole
        dsimp only [Progress.inWorld] at onward further ⊢
        revert answers
        generalize host.call widget repeating progress.world = answer
        generalize host'.call widget repeating world' = answer'
        intro answers
        cases answers with
        | same whole => exact onward _ whole
        | @stopped _ failure world' short =>
            have past : (progress.inWorld world').Past Short answer.2 progress.diagnostics :=
              ⟨short, List.prefix_refl _⟩
            refine .stopped failure (progress.inWorld world') ?_
            rcases answer with ⟨broken | again, world⟩
            · exact past
            · exact further (curtails.lasting _) again past

/-- The expansions go side by side until the second one is stopped. -/
theorem levels_curtailed (layout : Layout) (fuel : Nat) :
    (∀ suppressed pending progress {world'}, Whole progress.world world' →
      (expandItems host layout suppressed fuel pending progress).Curtailed Whole Short
        (expandItems host' layout suppressed fuel pending (progress.inWorld world'))) ∧
    (∀ suppressed widget repeating start progress {world'}, Whole progress.world world' →
      (expandBody host layout suppressed fuel widget repeating start progress).Curtailed Whole Short
        (expandBody host' layout suppressed fuel widget repeating start
          (progress.inWorld world'))) := by
  induction fuel with
  | zero => exact ⟨fun _ _ _ _ _ => .unfinished, fun _ _ _ _ _ _ _ => .unfinished⟩
  | succ fuel ih =>
      obtain ⟨items, body⟩ := ih
      constructor
      · intro suppressed pending progress world' whole
        rw [expandItems_succ, expandItems_succ]
        dsimp only [Progress.inWorld]
        split
        case h_1 => exact items _ _ (progress.moveTo _) whole
        case h_2 | h_3 | h_4 =>
            exact emit_curtailed curtails suppressed _ progress whole (fun whole => .ended _ whole)
              fun _ _ has => has
        case h_5 =>
            refine emit_curtailed curtails suppressed _ progress whole (fun whole => ?_)
              fun lasting _ has => ?_
            · exact emit_curtailed curtails suppressed _ ((progress.inWorld _).report _) whole
                (fun whole => .ended _ whole) fun _ _ has => has
            · exact emit_reaches lasting (lasting.reported has _) fun has => has
        case h_6 name resume _ =>
            refine emit_curtailed curtails suppressed _ progress whole (fun {world _} whole => ?_)
              fun lasting _ => block_reaches lasting _ _ _ name _ _
            rw [Progress.noteName_inWorld, Progress.noteName_inWorld]
            generalize progress.noteName name _ = noted
            refine (body suppressed (Widget.ofName? name) false resume (noted.inWorld world)
              whole).unlessTruncated (fun whole => .ended .truncated whole)
                (fun whole => items _ _ _ whole) fun past => ?_
            exact past.unlessTruncated id fun has =>
              expandItems_reaches (curtails.lasting _) _ _ _ _ has
        case h_7 name resume _ =>
            refine emit_curtailed curtails suppressed _ progress whole (fun {world _} whole => ?_)
              fun lasting _ => call_reaches lasting _ _ _ name _ _
            rw [Progress.noteName_inWorld, Progress.noteName_inWorld]
            generalize progress.noteName name _ = noted
            refine consult_curtailed curtails (Widget.ofName? name) suppressed false
              (noted.inWorld world) whole (fun _ {world _} whole => ?_) fun lasting _ _ has =>
                expandItems_reaches lasting _ _ _ _ has
            exact items _ _ ((noted.inWorld world).moveTo resume) whole
      · intro suppressed widget repeating start progress world' whole
        rw [expandBody_succ, expandBody_succ]
        refine consult_curtailed curtails _ _ _ progress whole (fun again {world _} whole => ?_)
          fun lasting again _ => pass_reaches lasting _ _ _ widget again _
        have entered := items (suppressed || !again) "" ((progress.inWorld world).moveTo start).enter
          (by rw [Progress.enter_world]; exact whole)
        rw [← Progress.enter_inWorld] at entered
        refine entered.unlessTruncated (fun whole => .ended _ whole) (fun whole => ?_) fun past => ?_
        · cases again with
          | true => exact body _ _ _ _ _ whole
          | false => exact .ended _ whole
        · refine past.unlessTruncated id fun has => ?_
          cases again with
          | true => exact expandBody_reaches (curtails.lasting _) _ _ _ _ _ _ has
          | false => exact has

/-- Where the first expansion comes to a result, the second comes to the same one, or to a failure that
stops it on the way there. -/
theorem expand_curtailed {fuel : Nat} {suppressed : Bool} {template after : Template} {world later : ω}
    {world' : ω'} (whole : Whole world world') {result : Except ε Ending}
    (ended : template.expand host fuel suppressed world = some (result, after, later)) :
    (∃ later', template.expand host' fuel suppressed world' = some (result, after, later') ∧
        Whole later later') ∨
      ∃ failure stopped later',
        template.expand host' fuel suppressed world' = some (.error failure, stopped, later') ∧
        Short later later' ∧ stopped.diagnostics.toList <+: after.diagnostics.toList := by
  have entered : Whole (template.progress world).enter.world world' := by
    rw [Progress.enter_world]
    exact whole
  have curtailed := (levels_curtailed curtails template.layout fuel).1 suppressed ""
    (template.progress world).enter entered
  rw [← Progress.enter_inWorld] at curtailed
  have start : (template.progress world).inWorld world' = template.progress world' := rfl
  rw [start] at curtailed
  unfold Template.expand at ended ⊢
  revert curtailed ended
  generalize expandItems host _ _ _ _ _ = outcome
  generalize expandItems host' _ _ _ _ _ = outcome'
  intro ended curtailed
  cases curtailed with
  | ended ending whole =>
      cases ended
      exact .inl ⟨_, rfl, whole⟩
  | stopped failure stopped past =>
      refine .inr ⟨failure, _, _, rfl, ?_⟩
      cases outcome with
      | ended _ _ | failed _ _ =>
          cases ended
          exact past
      | unfinished => cases ended
  | unfinished => cases ended

end
end SiteIndex.Template

import SiteIndex.Proofs.Template.Stepwise

/-!
Two expansions of one text that run side by side, each in a host of its own. As long as writes and
calls give the same answers in both and keep the two states related, so do the expansions, and they
take the same way through the text. With a relation that says something of a single state, the same
holds of a single expansion: what every write and every call keeps, the expansion keeps.
-/

namespace SiteIndex.Template

variable {ε α α' ω ω' : Type}

/-- Two answers that both have values, `Whole` holding of these and of the states, or that are the
same failure, and then `Broken` holds of the states. -/
inductive Paired (Whole : α → α' → ω → ω' → Prop) (Broken : ω → ω' → Prop) :
    Except ε α × ω → Except ε α' × ω' → Prop
  | ok {value : α} {value' : α'} {world : ω} {world' : ω'}
      (whole : Whole value value' world world') :
      Paired Whole Broken (.ok value, world) (.ok value', world')
  | error (failure : ε) {world : ω} {world' : ω'} (broken : Broken world world') :
      Paired Whole Broken (.error failure, world) (.error failure, world')

/-- The same value, with states that are related. -/
def Same (Whole : ω → ω' → Prop) (value value' : α) (world : ω) (world' : ω') : Prop :=
  value = value' ∧ Whole world world'

/-- The same way through the text, in another world. -/
def Progress.inWorld (progress : Progress ω) (world : ω') : Progress ω' :=
  ⟨progress.place, progress.rewindPoint, progress.depth, progress.diagnostics, world⟩

theorem Progress.noteName_inWorld (progress : Progress ω) (world : ω') (name : String)
    (offset : Nat) :
    (progress.inWorld world).noteName name offset =
      (progress.noteName name offset).inWorld world := by
  unfold noteName
  split <;> rfl

theorem Progress.enter_inWorld (progress : Progress ω) (world : ω') :
    (progress.inWorld world).enter = progress.enter.inWorld world := by
  unfold enter
  dsimp only [inWorld]
  split <;> rfl

theorem Progress.enter_world (progress : Progress ω) : progress.enter.world = progress.world := by
  unfold enter
  dsimp only
  split <;> rfl

namespace Outcome

/-- Two outcomes that agree as answers do, at the same point of the text. -/
inductive Paired (Whole Broken : ω → ω' → Prop) : Outcome ε ω → Outcome ε ω' → Prop
  | ended (ending : Ending) {progress : Progress ω} {world : ω'}
      (whole : Whole progress.world world) :
      Paired Whole Broken (.ended ending progress) (.ended ending (progress.inWorld world))
  | failed (failure : ε) {progress : Progress ω} {world : ω'}
      (broken : Broken progress.world world) :
      Paired Whole Broken (.failed failure progress) (.failed failure (progress.inWorld world))
  | unfinished : Paired Whole Broken .unfinished .unfinished

variable {Whole Whole' Broken : ω → ω' → Prop}

theorem Paired.mono {outcome : Outcome ε ω} {outcome' : Outcome ε ω'}
    (paired : outcome.Paired Whole Broken outcome')
    (weaker : ∀ {world world'}, Whole world world' → Whole' world world') :
    outcome.Paired Whole' Broken outcome' := by
  cases paired with
  | ended ending whole => exact .ended ending (weaker whole)
  | failed failure broken => exact .failed failure broken
  | unfinished => exact .unfinished

theorem Paired.unlessTruncated {outcome : Outcome ε ω} {outcome' : Outcome ε ω'}
    (paired : outcome.Paired Whole Broken outcome')
    {cut : Progress ω → Progress ω} {cut' : Progress ω' → Progress ω'}
    {goOn : Ending → Progress ω → Outcome ε ω} {goOn' : Ending → Progress ω' → Outcome ε ω'}
    (short : ∀ {progress world}, Whole progress.world world →
      Paired (ε := ε) Whole' Broken (.ended .truncated (cut progress))
        (.ended .truncated (cut' (progress.inWorld world))))
    (onward : ∀ {ending progress world}, Whole progress.world world →
      (goOn ending progress).Paired Whole' Broken (goOn' ending (progress.inWorld world))) :
    (outcome.unlessTruncated cut goOn).Paired Whole' Broken
      (outcome'.unlessTruncated cut' goOn') := by
  cases paired with
  | ended ending whole =>
      cases ending with
      | truncated => exact short whole
      | _ => exact onward whole
  | failed failure broken => exact .failed failure broken
  | unfinished => exact .unfinished

end Outcome

/-- The answers of two hosts agree and keep their states related. What relates the states may be more
once `pwd` has asked for its body; only then is a body of `pwd` ever repeated. -/
structure Alongside (host : Host ε ω) (host' : Host ε ω') (Whole : (onWay : Bool) → ω → ω' → Prop)
    (Broken : ω → ω' → Prop) : Prop where
  forget : ∀ {world world'}, Whole true world world' → Whole false world world'
  write : ∀ {onWay world world'} (bytes : ByteArray), Whole onWay world world' →
    Paired (Same (Whole onWay)) Broken (host.write bytes world) (host'.write bytes world')
  call : ∀ {onWay world world'} (widget : Widget) (repeating : Bool),
    (repeating = true → widget = .pwd → onWay = true) → Whole onWay world world' →
      Paired (fun again => Same (Whole (onWay || again && widget = .pwd)) again) Broken
        (host.call widget repeating world) (host'.call widget repeating world')

section
variable {host : Host ε ω} {host' : Host ε ω'} {Whole : Bool → ω → ω' → Prop}
  {Broken : ω → ω' → Prop}

theorem Alongside.weaken (alongside : Alongside host host' Whole Broken) {onWay more : Bool}
    {world : ω} {world' : ω'} (whole : Whole (onWay || more) world world') :
    Whole onWay world world' := by
  cases onWay with
  | true => exact whole
  | false =>
      cases more with
      | true => exact alongside.forget whole
      | false => exact whole

theorem emit_paired (alongside : Alongside host host' Whole Broken) {onWay : Bool}
    (suppressed : Bool) (text : String) (progress : Progress ω) {world : ω'}
    (whole : Whole onWay progress.world world)
    {goOn : Progress ω → Outcome ε ω} {goOn' : Progress ω' → Outcome ε ω'}
    (onward : ∀ {world world'}, Whole onWay world world' →
      (goOn (progress.inWorld world)).Paired (Whole onWay) Broken
        (goOn' (progress.inWorld world'))) :
    (emit host suppressed text progress goOn).Paired (Whole onWay) Broken
      (emit host' suppressed text (progress.inWorld world) goOn') := by
  unfold emit
  split
  · exact onward whole
  · have answers := alongside.write text.toUTF8 whole
    dsimp only [Progress.inWorld] at onward ⊢
    revert answers
    generalize host.write text.toUTF8 progress.world = answer
    generalize host'.write text.toUTF8 world = answer'
    intro answers
    cases answers with
    | ok same => exact onward same.2
    | error failure broken => exact .failed failure broken

theorem consult_paired (alongside : Alongside host host' Whole Broken) {onWay : Bool}
    (widget : Option Widget) (suppressed repeating : Bool)
    (begun : repeating = true → widget = some .pwd → onWay = true)
    (progress : Progress ω) {world : ω'} (whole : Whole onWay progress.world world)
    {goOn : Bool → Progress ω → Outcome ε ω} {goOn' : Bool → Progress ω' → Outcome ε ω'}
    (onward : ∀ further {world world'} (again : Bool),
      (again = true → widget = some .pwd → further = true) →
      (∀ {world world'}, Whole further world world' → Whole onWay world world') →
      Whole further world world' →
      (goOn again (progress.inWorld world)).Paired (Whole onWay) Broken
        (goOn' again (progress.inWorld world'))) :
    (consult host widget suppressed repeating progress goOn).Paired (Whole onWay) Broken
      (consult host' widget suppressed repeating (progress.inWorld world) goOn') := by
  have uncalled := onward onWay false nofun id whole
  unfold consult
  cases widget with
  | none => exact uncalled
  | some widget =>
      dsimp only
      split
      · exact uncalled
      · have answers := alongside.call widget repeating
          (fun repeated way => begun repeated (congrArg some way)) whole
        dsimp only [Progress.inWorld] at onward ⊢
        revert answers
        generalize host.call widget repeating progress.world = answer
        generalize host'.call widget repeating world = answer'
        intro answers
        cases answers with
        | @ok again _ _ _ same =>
            obtain ⟨rfl, whole⟩ := same
            exact onward _ again (fun again way => by simp [again, Option.some.inj way])
              alongside.weaken whole
        | error failure broken => exact .failed failure broken

/-- Two expansions run side by side for as long as their hosts do. -/
theorem levels_paired (alongside : Alongside host host' Whole Broken) (layout : Layout)
    (fuel : Nat) :
    (∀ onWay suppressed pending progress {world}, Whole onWay progress.world world →
      (expandItems host layout suppressed fuel pending progress).Paired (Whole onWay) Broken
        (expandItems host' layout suppressed fuel pending (progress.inWorld world))) ∧
    (∀ onWay suppressed widget repeating start progress {world},
      (repeating = true → widget = some .pwd → onWay = true) → Whole onWay progress.world world →
      (expandBody host layout suppressed fuel widget repeating start progress).Paired (Whole onWay)
        Broken (expandBody host' layout suppressed fuel widget repeating start
          (progress.inWorld world))) := by
  induction fuel with
  | zero => exact ⟨fun _ _ _ _ _ _ => .unfinished, fun _ _ _ _ _ _ _ _ _ => .unfinished⟩
  | succ fuel ih =>
      obtain ⟨items, body⟩ := ih
      have unrepeated {widget : Option Widget} {onWay : Bool} (repeated : false = true) :
          widget = some .pwd → onWay = true :=
        absurd repeated Bool.false_ne_true
      constructor
      · intro onWay suppressed pending progress world whole
        rw [expandItems_succ, expandItems_succ]
        dsimp only [Progress.inWorld]
        split
        case h_1 => exact items _ _ _ (progress.moveTo _) whole
        case h_2 | h_3 | h_4 =>
            exact emit_paired alongside suppressed _ progress whole fun whole => .ended _ whole
        case h_5 =>
            refine emit_paired alongside suppressed _ progress whole fun whole => ?_
            exact emit_paired alongside suppressed _ (Progress.report _ _) whole
              fun whole => .ended _ whole
        case h_6 name resume _ =>
            refine emit_paired alongside suppressed _ progress whole fun {world _} whole => ?_
            rw [Progress.noteName_inWorld, Progress.noteName_inWorld]
            generalize progress.noteName name _ = noted
            exact (body onWay suppressed (Widget.ofName? name) false resume (noted.inWorld world)
              unrepeated whole).unlessTruncated (fun whole => .ended .truncated whole)
                fun whole => items _ _ _ _ whole
        case h_7 name resume _ =>
            refine emit_paired alongside suppressed _ progress whole fun {world _} whole => ?_
            rw [Progress.noteName_inWorld, Progress.noteName_inWorld]
            generalize progress.noteName name _ = noted
            refine consult_paired alongside (Widget.ofName? name) suppressed false unrepeated
              (noted.inWorld world) whole fun _ {world _} _ _ forget whole => ?_
            exact items _ _ _ ((noted.inWorld world).moveTo resume) (forget whole)
      · intro onWay suppressed widget repeating start progress world begun whole
        rw [expandBody_succ, expandBody_succ]
        refine consult_paired alongside _ _ _ begun progress whole
          fun further {world _} again begun forget whole => ?_
        have entered := items further (suppressed || !again) ""
          ((progress.inWorld world).moveTo start).enter (by rw [Progress.enter_world]; exact whole)
        rw [← Progress.enter_inWorld] at entered
        refine entered.unlessTruncated (fun whole => .ended _ (forget whole)) fun whole => ?_
        cases again with
        | true =>
            exact (body further suppressed widget true start _ (fun _ way => begun rfl way)
              whole).mono forget
        | false => exact .ended _ (forget whole)

/-- Two expansions side by side come to the same result and leave the same template behind, or neither
comes to any. -/
theorem expand_alongside (alongside : Alongside host host' Whole Broken) (fuel : Nat)
    (suppressed : Bool) (template : Template) {world : ω} {world' : ω'} (whole : Whole false world world') :
    (template.expand host fuel suppressed world = none ∧
        template.expand host' fuel suppressed world' = none) ∨
      ∃ result after later later',
        template.expand host fuel suppressed world = some (result, after, later) ∧
        template.expand host' fuel suppressed world' = some (result, after, later') ∧
        Paired (Same (Whole false)) Broken (result, later) (result, later') := by
  have entered : Whole false (template.progress world).enter.world world' := by
    rw [Progress.enter_world]
    exact whole
  have paired := (levels_paired alongside template.layout fuel).1 false suppressed ""
    (template.progress world).enter entered
  rw [← Progress.enter_inWorld] at paired
  have start : (template.progress world).inWorld world' = template.progress world' := rfl
  rw [start] at paired
  unfold Template.expand
  revert paired
  generalize expandItems host _ _ _ _ _ = outcome
  generalize expandItems host' _ _ _ _ _ = outcome'
  intro paired
  cases paired with
  | ended ending whole => exact .inr ⟨_, _, _, _, rfl, rfl, .ok ⟨rfl, whole⟩⟩
  | failed failure broken => exact .inr ⟨_, _, _, _, rfl, rfl, .error failure broken⟩
  | unfinished => exact .inl ⟨rfl, rfl⟩

/-- Where one of two expansions side by side comes to a result, the other comes to the same one and
leaves the same template behind. -/
theorem expand_paired (alongside : Alongside host host' Whole Broken) {fuel : Nat}
    {suppressed : Bool} {template after : Template} {world later : ω} {world' : ω'}
    (whole : Whole false world world') {result : Except ε Ending}
    (ended : template.expand host fuel suppressed world = some (result, after, later)) :
    ∃ later', template.expand host' fuel suppressed world' = some (result, after, later') ∧
      Paired (Same (Whole false)) Broken (result, later) (result, later') := by
  rcases expand_alongside alongside fuel suppressed template whole with
    ⟨none, _⟩ | ⟨_, _, _, later', ended', beside, paired⟩
  · cases ended.symm.trans none
  · cases ended.symm.trans ended'
    exact ⟨later', beside, paired⟩

end

end SiteIndex.Template

import SiteIndex.Proofs.Template.Silence

/-!
Loops told pass by pass. A widget that repeats its body goes on from one visible pass to the next for as
long as it asks for one, and then the body is gone through in silence. Where it is known what the widget
has ahead of it, the loop is told by that: one pass for each item, and what comes of it.
-/

namespace SiteIndex.Template

open SiteIndex.Text

section
variable {ε ω : Type}

/-- A loop over the body at a place, told by how many visible passes it makes and what comes of it. -/
inductive Turns (host : Host ε ω) (layout : Layout) (widget : Widget) (start : Place) :
    (repeating : Bool) → Progress ω → (passes : Nat) → Outcome ε ω → Prop
  | refused {repeating : Bool} {progress : Progress ω} {failure : ε} {world : ω}
      (called : host.call widget repeating progress.world = (.error failure, world)) :
      Turns host layout widget start repeating progress 0 (.failed failure { progress with world })
  /-- The widget asks for no pass, and the body is gone through in silence. -/
  | silent {repeating : Bool} {progress : Progress ω} {world : ω} {fuel : Nat}
      {outcome : Outcome ε ω}
      (called : host.call widget repeating progress.world = (.ok false, world))
      (gone : expandItems host layout true fuel ""
        ({ progress with world }.moveTo start).enter = outcome)
      (finished : outcome ≠ .unfinished) :
      Turns host layout widget start repeating progress 0 outcome
  | cut {repeating : Bool} {progress cut : Progress ω} {world : ω} {fuel : Nat}
      (called : host.call widget repeating progress.world = (.ok true, world))
      (gone : expandItems host layout false fuel ""
        ({ progress with world }.moveTo start).enter = .ended .truncated cut) :
      Turns host layout widget start repeating progress 1 (.ended .truncated cut)
  | failed {repeating : Bool} {progress broken : Progress ω} {world : ω} {fuel : Nat} {failure : ε}
      (called : host.call widget repeating progress.world = (.ok true, world))
      (gone : expandItems host layout false fuel ""
        ({ progress with world }.moveTo start).enter = .failed failure broken) :
      Turns host layout widget start repeating progress 1 (.failed failure broken)
  | pass {repeating : Bool} {progress between : Progress ω} {world : ω} {fuel passes : Nat}
      {ending : Ending} {outcome : Outcome ε ω}
      (called : host.call widget repeating progress.world = (.ok true, world))
      (gone : expandItems host layout false fuel ""
        ({ progress with world }.moveTo start).enter = .ended ending between)
      (whole : ending ≠ .truncated)
      (onward : Turns host layout widget start true between passes outcome) :
      Turns host layout widget start repeating progress (passes + 1) outcome

section
variable {host : Host ε ω} {layout : Layout} {widget : Widget} {start : Place}

theorem Turns.finished {repeating : Bool} {progress : Progress ω} {passes : Nat}
    {outcome : Outcome ε ω}
    (turns : Turns host layout widget start repeating progress passes outcome) :
    outcome ≠ .unfinished := by
  induction turns with
  | silent _ _ finished => exact finished
  | pass _ _ _ _ ih => exact ih
  | refused _ => exact nofun
  | cut _ _ => exact nofun
  | failed _ _ => exact nofun

/-- A loop is told in one way only: the number of its passes is its own. -/
theorem Turns.unique {repeating : Bool} {progress : Progress ω} {passes passes' : Nat}
    {outcome outcome' : Outcome ε ω}
    (turns : Turns host layout widget start repeating progress passes outcome)
    (turns' : Turns host layout widget start repeating progress passes' outcome') :
    passes = passes' ∧ outcome = outcome' := by
  induction turns generalizing passes' outcome' with
  | refused called =>
      cases turns' with
      | refused called' => cases called.symm.trans called'; exact ⟨rfl, rfl⟩
      | silent called' | cut called' | failed called' | pass called' =>
          cases called.symm.trans called'
  | silent called gone finished =>
      cases turns' with
      | silent called' gone' finished' =>
          cases called.symm.trans called'
          exact ⟨rfl, expandItems_unique host gone gone' finished finished'⟩
      | refused called' | cut called' | failed called' | pass called' =>
          cases called.symm.trans called'
  | cut called gone =>
      cases turns' with
      | refused called' | silent called' => cases called.symm.trans called'
      | cut called' gone' =>
          cases called.symm.trans called'
          exact ⟨rfl, expandItems_unique host gone gone' nofun nofun⟩
      | failed called' gone' =>
          cases called.symm.trans called'
          cases expandItems_unique host gone gone' nofun nofun
      | pass called' gone' whole =>
          cases called.symm.trans called'
          cases expandItems_unique host gone gone' nofun nofun
          exact absurd rfl whole
  | failed called gone =>
      cases turns' with
      | refused called' | silent called' => cases called.symm.trans called'
      | failed called' gone' =>
          cases called.symm.trans called'
          exact ⟨rfl, expandItems_unique host gone gone' nofun nofun⟩
      | cut called' gone' | pass called' gone' =>
          cases called.symm.trans called'
          cases expandItems_unique host gone gone' nofun nofun
  | pass called gone whole _ ih =>
      cases turns' with
      | refused called' | silent called' => cases called.symm.trans called'
      | failed called' gone' =>
          cases called.symm.trans called'
          cases expandItems_unique host gone gone' nofun nofun
      | cut called' gone' =>
          cases called.symm.trans called'
          cases expandItems_unique host gone gone' nofun nofun
          exact absurd rfl whole
      | pass called' gone' _ onward' =>
          cases called.symm.trans called'
          cases expandItems_unique host gone gone' nofun nofun
          obtain ⟨rfl, rfl⟩ := ih onward'
          exact ⟨rfl, rfl⟩

/-- The turns are those of the expansion of the body. -/
theorem Turns.expandBody {repeating : Bool} {progress : Progress ω} {passes : Nat}
    {outcome : Outcome ε ω}
    (turns : Turns host layout widget start repeating progress passes outcome) :
    ∃ fuel, Template.expandBody host layout false fuel (some widget) repeating start progress =
      outcome := by
  induction turns with
  | refused called => exact ⟨1, expandBody_notCalled host layout called 0 start⟩
  | @silent _ _ _ fuel _ called gone _ =>
      exact ⟨fuel + 1, (expandBody_called host layout called fuel start).trans gone⟩
  | @cut _ _ _ _ fuel called gone =>
      refine ⟨fuel + 1, (expandBody_called host layout called fuel start).trans ?_⟩
      simp only [if_true, gone]
      rfl
  | @failed _ _ _ _ fuel _ called gone =>
      refine ⟨fuel + 1, (expandBody_called host layout called fuel start).trans ?_⟩
      simp only [if_true, gone]
      rfl
  | @pass _ _ between _ fuel _ ending _ called gone whole onward ih =>
      obtain ⟨later, ended⟩ := ih
      -- this pass and the later ones fit into the larger of their allowances
      have first := (expandItems_settles host layout false (Nat.le_max_left fuel later) ""
        _).eq_of_finished (by rw [gone]; exact nofun)
      have second := (expandBody_settles host layout false (Nat.le_max_right fuel later)
        (some widget) true start between).eq_of_finished (by rw [ended]; exact onward.finished)
      refine ⟨max fuel later + 1, (expandBody_called host layout called _ start).trans ?_⟩
      simp only [if_true, first, gone, Outcome.unlessTruncated_ended whole, second, ended]

end

/-- What is asked of a loop that has so many items ahead of it: a visible pass over a body for each of them
in their order, and none behind the last. `Said` is what an answer of the widget does that asks for a pass,
and `Kept` what the pass does. -/
inductive Rounds {α : Type} (host : Host ε ω) (layout : Layout) (widget : Widget) (start : Place)
    (Said : α → (ahead : List α) → ω → ω → Prop)
    (Kept : α → (ahead : List α) → Progress ω → Progress ω → Prop) :
    (repeating : Bool) → List α → Progress ω → Outcome ε ω → Prop
  | done {repeating : Bool} {progress final : Progress ω} {world : ω} {fuel : Nat}
      (called : host.call widget repeating progress.world = (.ok false, world))
      (gone : expandItems host layout true fuel ""
        ({ progress with world }.moveTo start).enter = .ended .finished final)
      (idle : final.world = world) :
      Rounds host layout widget start Said Kept repeating [] progress (.ended .finished final)
  | pass {repeating : Bool} {item : α} {ahead : List α} {progress between : Progress ω} {world : ω}
      {fuel : Nat} {outcome : Outcome ε ω}
      (called : host.call widget repeating progress.world = (.ok true, world))
      (said : Said item ahead progress.world world)
      (gone : expandItems host layout false fuel ""
        ({ progress with world }.moveTo start).enter = .ended .finished between)
      (kept : Kept item ahead { progress with world } between)
      (onward : Rounds host layout widget start Said Kept true ahead between outcome) :
      Rounds host layout widget start Said Kept repeating (item :: ahead) progress outcome
  /-- The answer fails, as a write may that it takes. -/
  | refused {repeating : Bool} {item : α} {ahead : List α} {progress : Progress ω} {failure : ε}
      {world : ω} (called : host.call widget repeating progress.world = (.error failure, world)) :
      Rounds host layout widget start Said Kept repeating (item :: ahead) progress
        (.failed failure { progress with world })
  | broken {repeating : Bool} {item : α} {ahead : List α} {progress broken : Progress ω} {world : ω}
      {fuel : Nat} {failure : ε}
      (called : host.call widget repeating progress.world = (.ok true, world))
      (said : Said item ahead progress.world world)
      (gone : expandItems host layout false fuel ""
        ({ progress with world }.moveTo start).enter = .failed failure broken) :
      Rounds host layout widget start Said Kept repeating (item :: ahead) progress
        (.failed failure broken)

section
variable {α : Type} {host : Host ε ω} {layout : Layout} {widget : Widget} {start : Place}
  {Said : α → List α → ω → ω → Prop} {Kept : α → List α → Progress ω → Progress ω → Prop}

theorem Rounds.turns {repeating : Bool} {items : List α} {progress : Progress ω}
    {outcome : Outcome ε ω}
    (rounds : Rounds host layout widget start Said Kept repeating items progress outcome) :
    ∃ passes ≤ items.length, Turns host layout widget start repeating progress passes outcome := by
  induction rounds with
  | done called gone _ => exact ⟨0, Nat.le_refl 0, .silent called gone nofun⟩
  | pass called _ gone _ _ ih =>
      obtain ⟨passes, few, turns⟩ := ih
      exact ⟨passes + 1, Nat.succ_le_succ few, .pass called gone nofun turns⟩
  | refused called => exact ⟨0, Nat.zero_le _, .refused called⟩
  | broken called _ gone => exact ⟨1, Nat.succ_le_succ (Nat.zero_le _), .failed called gone⟩

/-- Behind the last pass the widget has asked for no more, and nothing has been done since. -/
theorem Rounds.last {repeating : Bool} {items : List α} {progress final : Progress ω}
    {ending : Ending}
    (rounds : Rounds host layout widget start Said Kept repeating items progress
      (.ended ending final)) :
    ending = .finished ∧ ∃ repeating before, host.call widget repeating before = (.ok false, final.world) := by
  generalize told : Outcome.ended ending final = outcome at rounds
  induction rounds with
  | done called _ idle =>
      cases told
      exact ⟨rfl, _, _, idle ▸ called⟩
  | pass _ _ _ _ _ ih => exact ih told
  | refused => cases told
  | broken => cases told

/-- The rounds are those of the expansion of the body. -/
theorem Rounds.expandBody {repeating : Bool} {items : List α} {progress : Progress ω}
    {outcome : Outcome ε ω}
    (rounds : Rounds host layout widget start Said Kept repeating items progress outcome) :
    ∃ fuel, Template.expandBody host layout false fuel (some widget) repeating start progress =
      outcome := by
  obtain ⟨_, _, turns⟩ := rounds.turns
  exact turns.expandBody

end

section
variable (host : Host ε ω) (layout : Layout) (start : Place) {progress : Progress ω}

/-- In silence a body is only passed over. -/
theorem silent_pass (positive : 0 < progress.depth) :
    ∃ fuel diagnostics, expandItems host layout true fuel "" (progress.moveTo start).enter =
      .ended (Section.read layout true start).1.ending
        (progress.backAt (Section.read layout true start).2 ⟨diagnostics, progress.world⟩) := by
  obtain ⟨ending, diagnostics, idle⟩ := (Section.read layout true start).1.renderPass_silent host
    (fun _ _ => 0) progress.depth progress.stage
  rcases (pass_accord host layout true start positive).complete fun _ _ => 0 with none | ⟨fuel, agrees⟩
  · cases idle.symm.trans none
  · rcases agrees.elim with ⟨stage, gone, rendered⟩ | ⟨failure, broken, _, rendered⟩
    · cases idle.symm.trans rendered
      exact ⟨fuel, diagnostics, gone⟩
    · cases idle.symm.trans rendered

variable {host} in
/-- The silent pass behind the visible ones always comes to its end. -/
theorem turns_silent {widget : Widget} {repeating : Bool} (positive : 0 < progress.depth) {world : ω}
    (called : host.call widget repeating progress.world = (.ok false, world)) :
    ∃ outcome, Turns host layout widget start repeating progress 0 outcome := by
  have here : 0 < ({ progress with world } : Progress ω).depth := positive
  obtain ⟨fuel, diagnostics, gone⟩ := silent_pass host layout start here
  exact ⟨_, .silent called gone nofun⟩

end

section
variable {host : Host ε ω} {allowed : Widget → Prop} {Whole Broken : ω → Prop}
  (bearing : Bearing host allowed Whole Broken) {layout : Layout} {start : Place}
  (closed : (Section.read layout true start).1.lastStop = .closing)
  (calls : (Section.read layout true start).1.Calls allowed) {progress : Progress ω}
  (positive : 0 < progress.depth) (whole : Whole progress.world)
include bearing closed calls positive whole

/-- A visible pass over a closed body, once it has a result, has come to the brace or failed. -/
theorem visible_pass {fuel : Nat}
    (result : expandItems host layout false fuel "" (progress.moveTo start).enter ≠ .unfinished) :
    (∃ stage, expandItems host layout false fuel "" (progress.moveTo start).enter =
        .ended .finished (progress.backAt (Section.read layout true start).2 stage) ∧
        Whole stage.world) ∨
      ∃ failure broken, expandItems host layout false fuel "" (progress.moveTo start).enter =
        .failed failure broken ∧ Broken broken.world := by
  have finished : (Section.read layout true start).1.ending = .finished := by
    rw [Section.ending, closed, Stop.ending]
  have deeper : Whole (progress.stage.reportDepth (progress.depth + 1)).world := by
    rwa [Stage.reportDepth_world]
  have bears := Section.render_bears bearing (fun _ _ => fuel) calls (progress.depth + 1) false deeper
  have agrees := ((pass_accord host layout false start positive).sound fuel (fun _ _ => fuel)
    fun _ _ => Nat.le_refl fuel).resolve_left result
  rw [finished] at agrees
  rcases agrees.elim with ⟨stage, gone, rendered⟩ | ⟨failure, broken, gone, rendered⟩
  · exact .inl ⟨stage, gone, bears _ _ rendered⟩
  · exact .inr ⟨failure, broken, gone, bears _ _ rendered⟩

end

theorem Outcome.Paired.of_ended {ω' : Type} {Whole Broken : ω → ω' → Prop} {ending : Ending}
    {progress : Progress ω} {outcome : Outcome ε ω'}
    (paired : Outcome.Paired Whole Broken (.ended ending progress) outcome) :
    ∃ world, Whole progress.world world ∧ outcome = .ended ending (progress.inWorld world) := by
  cases paired with
  | ended _ whole => exact ⟨_, whole, rfl⟩

/-- An answer, and whether something still holds after it that has held so far. -/
def watched {α : Type} (holds : ω → Bool) (kept : Bool) :
    Except ε α × ω → Except ε α × (ω × Bool)
  | (result, later) => (result, later, kept && holds later)

/-- The host, watched for whether something holds after each of its answers. -/
def Host.watching (host : Host ε ω) (holds : ω → Bool) : Host ε (ω × Bool) where
  write bytes world := watched holds world.2 (host.write bytes world.1)
  call widget repeating world := watched holds world.2 (host.call widget repeating world.1)

section
variable (holds : ω → Bool)

theorem paired_watched {α : Type} (kept : Bool) (answer : Except ε α × ω) :
    Paired (Same fun world world' => world'.1 = world) (fun world world' => world'.1 = world) answer
      (watched holds kept answer) := by
  rcases answer with ⟨failure | value, later⟩
  · exact .error failure rfl
  · exact .ok ⟨rfl, rfl⟩

/-- A host that is watched does as it does otherwise. -/
theorem alongside_watching (host : Host ε ω) :
    Alongside host (host.watching holds) (fun _ world world' => world'.1 = world)
      fun world world' => world'.1 = world where
  forget := id
  write := by
    rintro _ _ ⟨world, kept⟩ bytes rfl
    exact paired_watched holds kept (host.write bytes world)
  call := by
    rintro _ _ ⟨world, kept⟩ widget repeating _ rfl
    exact paired_watched holds kept (host.call widget repeating world)

variable {holds} {host : Host ε ω} {allowed : Widget → Prop} {Whole Broken : ω → Prop}
  (bearing : Bearing host allowed Whole Broken) (seen : ∀ world, Whole world → holds world = true)

include seen in
theorem leaves_watched {α : Type} {answer : Except ε α × ω} (left : Leaves Whole Broken answer) :
    Leaves (fun world => Whole world.1 ∧ world.2 = true) (fun world => Broken world.1)
      (watched holds true answer) := by
  rcases answer with ⟨failure | value, later⟩
  · exact left
  · exact ⟨left, seen later left⟩

include bearing seen

/-- What follows from what is kept holds throughout. -/
theorem bearing_watching :
    Bearing (host.watching holds) allowed (fun world => Whole world.1 ∧ world.2 = true)
      fun world => Broken world.1 where
  write := by
    rintro ⟨world, _⟩ bytes ⟨whole, rfl⟩
    exact leaves_watched seen (bearing.write bytes whole)
  call := by
    rintro ⟨world, _⟩ widget repeating own ⟨whole, rfl⟩
    exact leaves_watched seen (bearing.call widget repeating own whole)

/-- A visible pass over a closed body, watched throughout. -/
theorem visible_pass_watched {layout : Layout} {start : Place}
    (closed : (Section.read layout true start).1.lastStop = .closing)
    (calls : (Section.read layout true start).1.Calls allowed) {progress between : Progress ω}
    (positive : 0 < progress.depth) (whole : Whole progress.world) {fuel : Nat}
    (gone : expandItems host layout false fuel "" (progress.moveTo start).enter =
      .ended .finished between) :
    expandItems (host.watching holds) layout false fuel ""
        ((progress.inWorld (progress.world, true)).moveTo start).enter =
      .ended .finished (between.inWorld (between.world, true)) := by
  have entered : (progress.world, true).1 = (progress.moveTo start).enter.world :=
    (progress.moveTo start).enter_world.symm
  have paired := (levels_paired (alongside_watching holds host) layout fuel).1 false false ""
    (progress.moveTo start).enter entered
  rw [← Progress.enter_inWorld, gone] at paired
  obtain ⟨⟨world, kept⟩, same, ended⟩ := paired.of_ended
  cases same
  have here : 0 < (progress.inWorld (progress.world, true)).depth := positive
  rcases visible_pass (bearing_watching bearing seen) closed calls here ⟨whole, rfl⟩
    (ended.trans_ne nofun) with ⟨stage, ended', _, flag⟩ | ⟨failure, broken, failed, _⟩
  · have final : (between.world, kept) = stage.world :=
      congrArg Progress.world (Outcome.ended.inj (ended.symm.trans ended')).2
    rw [← final] at flag
    obtain rfl : kept = true := flag
    exact ended
  · cases ended.symm.trans failed

end
end
end SiteIndex.Template

import SiteIndex.Proofs.Template.Accord

/-!
The parts of a section one by one: text that has been passed over, a call without a body, and the
passes over a body. A single pass over the text and the rendering of the tree do the same at each,
provided that they do the same to the items of the body.
-/

namespace SiteIndex.Template

open SiteIndex.Text

variable {ε ω : Type} (host : Host ε ω)

namespace Section

theorem render_pushAll {part : Section} (plain : part.BeginsPlain) (chars : List Char)
    (limit : Limit ω) (depth : Nat) (silent : Bool) (stage : Stage ω) :
    (pushAll chars part).render host limit depth silent stage =
      if chars = [] then part.render host limit depth silent stage
      else stage.write host silent chars fun stage => part.render host limit depth silent stage := by
  rw [pushAll_beginsPlain plain]
  split <;> rfl

/-- One pass over a body that lies in a section or body `depth` levels deep. -/
def renderPass (limit : Limit ω) (depth : Nat) (body : Section) (silent : Bool)
    (stage : Stage ω) : Rendered ε ω :=
  body.render host limit (depth + 1) silent (stage.reportDepth (depth + 1))

/-- The passes over the body of the widget that a name stands for; a silent one if there is none, or
if the whole is silent. -/
def renderBody (limit : Limit ω) (depth : Nat) (body : Section) (silent : Bool) :
    Option Widget → Stage ω → Rendered ε ω
  | none, stage => body.renderPass host limit depth true stage
  | some widget, stage =>
      if silent then body.renderPass host limit depth true stage
      else renderPasses host widget (body.renderPass host limit depth)
        (limit widget stage.world) false stage

theorem renderPasses_eq (widget : Widget) (pass : Bool → Stage ω → Rendered ε ω) (limit : Nat)
    (repeating : Bool) (stage : Stage ω) :
    renderPasses host widget pass limit repeating stage =
      stage.ask host widget repeating fun again stage =>
        if again then
          match limit with
          | 0 => none
          | limit + 1 =>
              (pass false stage).unlessTruncated (renderPasses host widget pass limit true)
        else pass true stage := by
  rw [renderPasses]
  congr 1
  funext again stage
  cases again with
  | false => rfl
  | true =>
      cases limit with
      | zero => rfl
      | succ limit =>
          simp only [if_true]
          exact Rendered.unlessTruncated_eq _ _

theorem render_block (limit : Limit ω) (name : String) (offset : Nat) (body next : Section)
    (depth : Nat) (silent : Bool) (stage : Stage ω) :
    (block name offset body next).render host limit depth silent stage =
      (body.renderBody host limit depth silent (Widget.ofName? name)
          (stage.noteName name offset)).unlessTruncated fun stage =>
        next.render host limit depth silent stage := by
  rw [render, ← Rendered.unlessTruncated_eq]
  unfold Stage.noteName renderBody
  cases Widget.ofName? name <;> rfl

theorem render_call (limit : Limit ω) (name : String) (offset : Nat) (next : Section)
    (depth : Nat) (silent : Bool) (stage : Stage ω) :
    (call name offset next).render host limit depth silent stage =
      match Widget.ofName? name with
      | some widget =>
          if silent then next.render host limit depth silent (stage.noteName name offset)
          else
            (stage.noteName name offset).ask host widget false fun _ stage =>
              next.render host limit depth silent stage
      | none => next.render host limit depth silent (stage.noteName name offset) := by
  rw [render]
  unfold Stage.noteName
  cases Widget.ofName? name <;> rfl

end Section
section
variable {ending : Ending} {arrive : Stage ω → Progress ω}

/-- Text that has been passed over is written in one piece by either. -/
theorem emit_accord (suppressed : Bool) (text : String) (progress : Progress ω) (depth : Nat)
    (part : Section) (plain : part.BeginsPlain) {goOn : Nat → Progress ω → Outcome ε ω}
    (onward : ∀ world, Accord ending arrive (fun fuel => goOn fuel { progress with world })
      (fun limit => part.render host limit depth suppressed ⟨progress.diagnostics, world⟩)) :
    Accord ending arrive (fun fuel => emit host suppressed text progress (goOn fuel))
      (fun limit => (Section.pushAll text.toList part).render host limit depth suppressed
        progress.stage) := by
  have empty : text.isEmpty = true ↔ text.toList = [] := by
    rw [String.isEmpty_iff, ← String.toList_eq_nil_iff]
  simp only [Section.render_pushAll host plain]
  unfold emit
  cases suppressed with
  | true =>
      have passed (limit : Limit ω) : Stage.write host progress.stage true text.toList
          (fun stage => part.render host limit depth true stage) =
          part.render host limit depth true progress.stage := rfl
      simp only [Bool.true_or, if_true, passed, ite_self]
      exact onward progress.world
  | false =>
      by_cases none : text.toList = []
      · simp only [empty.mpr none, Bool.or_true, if_true, none]
        exact onward progress.world
      · have some : text.isEmpty = false := by
          rw [← Bool.not_eq_true]
          exact fun h => none (empty.mp h)
        simp only [some, Bool.or_false, Bool.false_eq_true, if_false, if_neg none, Stage.write,
          String.ofList_toList, Progress.stage]
        rcases host.write text.toUTF8 progress.world with ⟨failure | _, world⟩
        · exact .of_agrees (.failed failure { progress with world })
        · exact onward world

/-- A call that has no body. -/
theorem call_accord (suppressed : Bool) (name : String) (offset : Nat) (progress : Progress ω)
    (depth : Nat) {next : Section} {goOn : Nat → Progress ω → Outcome ε ω}
    (onward : ∀ world, Accord ending arrive
      (fun fuel => goOn fuel { progress.noteName name offset with world })
      (fun limit => next.render host limit depth suppressed
        ⟨(progress.noteName name offset).diagnostics, world⟩)) :
    Accord ending arrive
      (fun fuel => consult host (Widget.ofName? name) suppressed false
        (progress.noteName name offset) fun _ progress => goOn fuel progress)
      (fun limit => (Section.call name offset next).render host limit depth suppressed
        progress.stage) := by
  simp only [Section.render_call, ← Progress.noteName_stage]
  unfold consult
  cases Widget.ofName? name with
  | none => exact onward _
  | some widget =>
      cases suppressed with
      | true => exact onward _
      | false =>
          simp only [Bool.false_eq_true, if_false, Stage.ask, Progress.stage]
          rcases host.call widget false (progress.noteName name offset).world with
            ⟨failure | again, world⟩
          · exact .of_agrees (.failed failure { progress.noteName name offset with world })
          · exact onward world

end

section
variable (layout : Layout) {widget : Widget} {repeating : Bool} {progress : Progress ω}

/-- A body whose widget has answered is gone through in sight and begun again, or in silence. -/
theorem expandBody_called {again : Bool} {world : ω}
    (called : host.call widget repeating progress.world = (.ok again, world)) (fuel : Nat)
    (start : Place) :
    expandBody host layout false (fuel + 1) (some widget) repeating start progress =
      let progress := { progress with world }
      if again then
        (expandItems host layout false fuel "" (progress.moveTo start).enter).unlessTruncated id
          fun _ progress => expandBody host layout false fuel (some widget) true start progress
      else expandItems host layout true fuel "" (progress.moveTo start).enter := by
  rw [expandBody_succ]
  unfold consult
  cases again with
  | true => simp [called]
  | false => simp [called, Outcome.unlessTruncated_id]

theorem expandBody_notCalled {failure : ε} {world : ω}
    (called : host.call widget repeating progress.world = (.error failure, world)) (fuel : Nat)
    (start : Place) :
    expandBody host layout false (fuel + 1) (some widget) repeating start progress =
      .failed failure { progress with world } := by
  rw [expandBody_succ]
  unfold consult
  simp [called]

theorem renderPasses_called {again : Bool} {world : ω}
    (called : host.call widget repeating progress.world = (.ok again, world))
    (pass : Bool → Stage ω → Rendered ε ω) (bound : Nat) :
    Section.renderPasses host widget pass bound repeating progress.stage =
      let stage := { progress with world }.stage
      if again then
        match bound with
        | 0 => none
        | bound + 1 =>
            (pass false stage).unlessTruncated
              (Section.renderPasses host widget pass bound true)
      else pass true stage := by
  rw [Section.renderPasses_eq]
  unfold Stage.ask Progress.stage
  simp only [called]

theorem renderPasses_notCalled {failure : ε} {world : ω}
    (called : host.call widget repeating progress.world = (.error failure, world))
    (pass : Bool → Stage ω → Rendered ε ω) (bound : Nat) :
    Section.renderPasses host widget pass bound repeating progress.stage =
      some (.error failure, { progress with world }.stage) := by
  rw [Section.renderPasses_eq]
  unfold Stage.ask Progress.stage
  simp only [called]

end

section
variable {layout : Layout} {start behind : Place} {inner : Ending} {origin : Progress ω}
  {pass : Limit ω → Bool → Stage ω → Rendered ε ω}
  (items : ∀ silent progress, origin.Beside progress → Accord inner (origin.backAt behind)
    (fun fuel => expandItems host layout silent fuel "" (progress.moveTo start).enter)
    (fun limit => pass limit silent progress.stage))
include items

/-- A widget that has its way makes no more passes over a body than the allowance lets it. -/
theorem passes_sound (widget : Widget) (limit : Limit ω) (fuel : Nat)
    (enough : ∀ widget world, fuel ≤ limit widget world) (bound : Nat) (within : fuel ≤ bound)
    (repeating : Bool) (progress : Progress ω) (beside : origin.Beside progress) :
    expandBody host layout false fuel (some widget) repeating start progress = .unfinished ∨
      Agrees inner (origin.backAt behind)
        (expandBody host layout false fuel (some widget) repeating start progress)
        (Section.renderPasses host widget (pass limit) bound repeating progress.stage) := by
  induction fuel generalizing bound repeating progress with
  | zero => exact .inl rfl
  | succ fuel ih =>
      have enough' : ∀ widget world, fuel ≤ limit widget world :=
        fun widget world => Nat.le_of_succ_le (enough widget world)
      rcases called : host.call widget repeating progress.world with ⟨failure | again, world⟩
      · rw [expandBody_notCalled host layout called, renderPasses_notCalled host called]
        exact .inr (.failed _ _)
      · have sound (silent : Bool) :=
          (items silent { progress with world } ⟨beside.1, beside.2⟩).sound fuel limit enough'
        rw [expandBody_called host layout called, renderPasses_called host called]
        cases again with
        | false => exact sound true
        | true =>
            obtain ⟨bound, rfl⟩ := Nat.exists_eq_succ_of_ne_zero (Nat.ne_zero_of_lt within)
            simp only [if_true]
            rcases sound false with none | agrees
            · exact .inl (by simp only [none, Outcome.unlessTruncated])
            · exact agrees.unlessTruncated
                (motive := fun outcome rendered => outcome = .unfinished ∨
                  Agrees inner (origin.backAt behind) outcome rendered)
                (fun truncated stage => .inr (truncated ▸ .ended stage))
                (fun _ stage => ih enough' bound (Nat.le_of_succ_le_succ within) true
                  (origin.backAt behind stage) ⟨rfl, rfl⟩)
                (fun failure progress => .inr (.failed failure progress))

/-- Where the passes over a body stay within their limit, some allowance suffices for them. -/
theorem passes_complete (widget : Widget) (limit : Limit ω) (bound : Nat) (repeating : Bool)
    (progress : Progress ω) (beside : origin.Beside progress) :
    Section.renderPasses host widget (pass limit) bound repeating progress.stage = none ∨
      ∃ fuel, Agrees inner (origin.backAt behind)
        (expandBody host layout false fuel (some widget) repeating start progress)
        (Section.renderPasses host widget (pass limit) bound repeating progress.stage) := by
  rcases called : host.call widget repeating progress.world with ⟨failure | again, world⟩
  · rw [renderPasses_notCalled host called]
    exact .inr ⟨1, by rw [expandBody_notCalled host layout called]; exact .failed _ _⟩
  · have here (silent : Bool) := items silent { progress with world } ⟨beside.1, beside.2⟩
    rw [renderPasses_called host called]
    cases again with
    | false =>
        rcases (here true).complete limit with none | ⟨fuel, agrees⟩
        · exact .inl none
        · exact .inr ⟨fuel + 1, by rw [expandBody_called host layout called]; exact agrees⟩
    | true =>
        cases bound with
        | zero => exact .inl rfl
        | succ bound =>
            simp only [if_true]
            rcases (here false).complete limit with none | ⟨fuel, agrees⟩
            · exact .inl (by rw [none, Rendered.unlessTruncated])
            · by_cases truncated : inner = .truncated
              · refine .inr ⟨fuel + 1, ?_⟩
                rw [expandBody_called host layout called]
                exact agrees.unlessTruncated (fun _ stage => truncated ▸ .ended stage)
                  (absurd truncated) (.failed)
              · rcases agrees.elim with ⟨stage, out, result⟩ | ⟨failure, _, out, result⟩
                · rw [result, Rendered.unlessTruncated_ok truncated]
                  rcases passes_complete widget limit bound true (origin.backAt behind stage)
                    ⟨rfl, rfl⟩ with none | ⟨later, onwards⟩
                  · exact .inl none
                  · -- this pass and the later ones fit into the larger of their allowances
                    have first := ((here false).settles (Nat.le_max_left fuel later)).eq_of_finished
                      agrees.finished
                    have second := (expandBody_settles host layout false
                      (Nat.le_max_right fuel later) (some widget) true start
                      (origin.backAt behind stage)).eq_of_finished onwards.finished
                    refine .inr ⟨max fuel later + 1, ?_⟩
                    rw [expandBody_called host layout called]
                    simp only [if_true, first, out, Outcome.unlessTruncated_ended truncated, second]
                    exact onwards
                · refine .inr ⟨fuel + 1, ?_⟩
                  rw [expandBody_called host layout called]
                  simp only [if_true, out, result]
                  exact .failed _ _
termination_by bound

end

section
variable {layout : Layout}

/-- A body, with all the passes that its widget asks for, and the silent one. -/
theorem body_accord {start behind : Place} {body : Section} (progress : Progress ω)
    (items : ∀ silent progress', progress.Beside progress' →
      Accord body.ending (progress.backAt behind)
        (fun fuel => expandItems host layout silent fuel "" (progress'.moveTo start).enter)
        (fun limit => body.renderPass host limit progress.depth silent progress'.stage))
    (suppressed : Bool) (widget : Option Widget) :
    Accord body.ending (progress.backAt behind)
      (fun fuel => expandBody host layout suppressed fuel widget false start progress)
      (fun limit => body.renderBody host limit progress.depth suppressed widget
        progress.stage) := by
  have silentPass (uncalled : widget = none ∨ suppressed = true) (fuel : Nat) :
      expandBody host layout suppressed (fuel + 1) widget false start progress =
        expandItems host layout true fuel "" (progress.moveTo start).enter := by
    rw [expandBody_succ]
    unfold consult
    rcases uncalled with rfl | rfl
    · simp [Outcome.unlessTruncated_id]
    · cases widget <;> simp [Outcome.unlessTruncated_id]
  cases widget with
  | none =>
      apply Accord.of_succ rfl
      simp only [silentPass (.inl rfl)]
      exact items true progress ⟨rfl, rfl⟩
  | some widget =>
      cases suppressed with
      | true =>
          apply Accord.of_succ rfl
          simp only [silentPass (.inr rfl)]
          exact items true progress ⟨rfl, rfl⟩
      | false =>
          refine ⟨fun more => expandBody_settles host layout false more _ _ _ _, ?_, ?_⟩
          · intro fuel limit enough
            exact passes_sound host items widget limit fuel enough _ (enough _ _) false progress
              ⟨rfl, rfl⟩
          · intro limit
            exact passes_complete host items widget limit _ false progress ⟨rfl, rfl⟩

end
end SiteIndex.Template

import SiteIndex.Proofs.Template.Passes

/-!
A single pass over the text does what reading it into a tree and rendering the tree does, for every
text, however its invocations are nested and wherever they are left open.
-/

namespace SiteIndex.Template

open SiteIndex.Text

section
variable {ε ω : Type} (host : Host ε ω) {layout : Layout}

/-- A call with a body, and what follows it on its level. -/
theorem block_accord (suppressed : Bool) (name : String) (offset : Nat) (progress : Progress ω)
    {start behind : Place} {body next : Section} {ending : Ending} {arrive : Stage ω → Progress ω}
    (items : ∀ silent noted, progress.Beside noted →
      Accord body.ending (progress.backAt behind)
        (fun fuel => expandItems host layout silent fuel "" (noted.moveTo start).enter)
        (fun limit => body.renderPass host limit progress.depth silent noted.stage))
    (short : body.ending = .truncated → ending = .truncated ∧ progress.arrival behind = arrive)
    (whole : body.ending ≠ .truncated → ∀ stage, Accord ending arrive
      (fun fuel => expandItems host layout suppressed fuel "" (progress.backAt behind stage))
      (fun limit => next.render host limit progress.depth suppressed stage)) :
    Accord ending arrive
      (fun fuel => (expandBody host layout suppressed fuel (Widget.ofName? name) false start
          (progress.noteName name offset)).unlessTruncated Progress.leave
        fun _ progress => expandItems host layout suppressed fuel "" progress)
      (fun limit => (Section.block name offset body next).render host limit progress.depth suppressed
        progress.stage) := by
  have beside := progress.noteName_beside name offset
  have passes := body_accord host (progress.noteName name offset)
    (fun silent noted further => by
      rw [beside.depth, beside.backAt]
      exact items silent noted
        ⟨further.depth.trans beside.depth, further.rewindPoint.trans beside.rewindPoint⟩)
    suppressed (Widget.ofName? name)
  rw [beside.depth, beside.backAt] at passes
  simp only [Section.render_block, ← Progress.noteName_stage]
  refine Accord.unlessTruncated
    (fun more _ progress => expandItems_settles host layout suppressed more "" progress) passes
    (fun truncated => ?_) whole
  obtain ⟨cut, arrived⟩ := short truncated
  exact ⟨cut, fun stage => congrFun arrived stage⟩

theorem enter_place (progress : Progress ω) : progress.enter.place = progress.place := by
  unfold Progress.enter
  dsimp only
  split <;> rfl

theorem enter_depth (progress : Progress ω) : progress.enter.depth = progress.depth + 1 := by
  unfold Progress.enter
  dsimp only
  split <;> rfl

theorem enter_rewindPoint (progress : Progress ω) :
    progress.enter.rewindPoint =
      if progress.depth = 0 then progress.place.offset else progress.rewindPoint := by
  unfold Progress.enter
  dsimp only
  split <;> simp only [Progress.report, Nat.add_eq_right]

theorem enter_stage (progress : Progress ω) :
    progress.enter.stage = progress.stage.reportDepth (progress.depth + 1) := by
  unfold Progress.enter Stage.reportDepth Progress.stage
  dsimp only
  by_cases deep : depthLimit < progress.depth + 1
  · rw [if_pos deep, if_neg (Nat.not_le.mpr deep)]
    rfl
  · rw [if_neg deep, if_pos (Nat.not_lt.mp deep)]

theorem enter_arrival {progress : Progress ω} (positive : 0 < progress.depth) (behind : Place) :
    progress.enter.arrival behind = progress.backAt behind := by
  have deeper : progress.depth ≠ 0 := Nat.ne_of_gt positive
  unfold Progress.enter Progress.arrival Progress.backAt
  dsimp only
  split <;> simp [deeper, Progress.report]

/-- An `@(` without `)` is reported and copied with all that follows it. -/
theorem unterminated_accord (suppressed : Bool) {here : Place} (more : here.rest ≠ [])
    (progress : Progress ω) :
    Accord .truncated (progress.arrival here.toEnd)
      (fun _ => emit host suppressed (String.ofList here.rest)
        (progress.report (.unterminatedInvocation here.offset)) fun progress =>
          .ended .truncated (progress.moveTo here.toEnd).leave)
      (fun limit => (Section.endsAt (.unterminated here.offset here.rest)).render host limit
        progress.depth suppressed progress.stage) := by
  have copied (limit : Limit ω) :
      (Section.endsAt (.unterminated here.offset here.rest)).render host limit progress.depth
          suppressed progress.stage =
        (Section.pushAll (String.ofList here.rest).toList (.endsAt .cutShort)).render host limit
          progress.depth suppressed
          (progress.report (.unterminatedInvocation here.offset)).stage := by
    rw [Section.render_pushAll host (show (Section.endsAt .cutShort).BeginsPlain from trivial),
      String.toList_ofList, if_neg more]
    rfl
  simp only [copied]
  exact emit_accord host suppressed _ _ _ (.endsAt .cutShort) trivial fun _ => .ended rfl

/-- From a place on some level, with text in front of it that is still to be written, a single pass and
the rendering of what lies ahead come to the same. -/
def ItemsAccord (layout : Layout) (suppressed : Bool) (pending : String) (progress : Progress ω) :
    Prop :=
  Accord (Section.ahead layout progress.depth progress.place).1.ending
    (progress.arrival (Section.ahead layout progress.depth progress.place).2)
    (fun fuel => expandItems host layout suppressed fuel pending progress)
    (fun limit => (Section.pushAll pending.toList
      (Section.ahead layout progress.depth progress.place).1).render host limit progress.depth
        suppressed progress.stage)

namespace ItemsAccord
variable {host} {suppressed : Bool} {progress noted : Progress ω} {place : Place}

theorem onLevel (items : ItemsAccord host layout suppressed "" (noted.moveTo place))
    (beside : progress.Beside noted) :
    Accord (Section.ahead layout progress.depth place).1.ending
      (progress.arrival (Section.ahead layout progress.depth place).2)
      (fun fuel => expandItems host layout suppressed fuel "" (noted.moveTo place))
      (fun limit => (Section.ahead layout progress.depth place).1.render host limit progress.depth
        suppressed noted.stage) := by
  rw [← beside.depth, ← beside.arrival]
  exact items

theorem entered (items : ItemsAccord host layout suppressed "" progress.enter) :
    Accord (Section.ahead layout (progress.depth + 1) progress.place).1.ending
      (progress.enter.arrival (Section.ahead layout (progress.depth + 1) progress.place).2)
      (fun fuel => expandItems host layout suppressed fuel "" progress.enter)
      (fun limit => (Section.ahead layout (progress.depth + 1) progress.place).1.renderPass host
        limit progress.depth suppressed progress.stage) := by
  unfold ItemsAccord at items
  rwa [enter_depth, enter_place, enter_stage] at items

/-- A body that has been gone through leads back to the level that it lies in. -/
theorem pass (items : ItemsAccord host layout suppressed "" (noted.moveTo place).enter)
    (beside : progress.Beside noted) (positive : 0 < progress.depth) :
    Accord (Section.ahead layout (progress.depth + 1) place).1.ending
      (progress.backAt (Section.ahead layout (progress.depth + 1) place).2)
      (fun fuel => expandItems host layout suppressed fuel "" (noted.moveTo place).enter)
      (fun limit => (Section.ahead layout (progress.depth + 1) place).1.renderPass host limit
        progress.depth suppressed noted.stage) := by
  have inside := items.entered
  rw [enter_arrival (beside.depth ▸ positive)] at inside
  rw [← beside.depth, ← beside.backAt]
  exact inside

end ItemsAccord

/-- An invocation with a body at a place, once the two agree in the body and behind it. -/
theorem invocation_accord (suppressed : Bool) (text name : String) (offset : Nat)
    {progress : Progress ω} (positive : 0 < progress.depth) {start : Place}
    (inside : ∀ silent noted, progress.Beside noted →
      ItemsAccord host layout silent "" (noted.moveTo start).enter)
    (behind : ∀ noted, progress.Beside noted → ItemsAccord host layout suppressed ""
      (noted.moveTo (Section.ahead layout (progress.depth + 1) start).2))
    {part : Section × Place}
    (read : part =
      let body := Section.ahead layout (progress.depth + 1) start
      if body.1.isTruncated then (.block name offset body.1 (.endsAt .cutShort), body.2)
      else
        (.block name offset body.1 (Section.ahead layout progress.depth body.2).1,
          (Section.ahead layout progress.depth body.2).2)) :
    Accord part.1.ending (progress.arrival part.2)
      (fun fuel => emit host suppressed text progress fun progress =>
        (expandBody host layout suppressed fuel (Widget.ofName? name) false start
            (progress.noteName name offset)).unlessTruncated Progress.leave
          fun _ progress => expandItems host layout suppressed fuel "" progress)
      (fun limit => (Section.pushAll text.toList part.1).render host limit progress.depth suppressed
        progress.stage) := by
  have passes (world : ω) (silent : Bool) (noted : Progress ω)
      (beside : { progress with world }.Beside noted) :=
    (inside silent noted ⟨beside.1, beside.2⟩).pass ⟨beside.1, beside.2⟩ positive
  subst read
  dsimp only
  split
  · next truncated =>
      refine emit_accord host suppressed text progress progress.depth (.block name offset _ _) trivial
        fun world => ?_
      exact block_accord host suppressed name offset { progress with world } (passes world)
        (fun _ => ⟨rfl, rfl⟩) (absurd (Section.isTruncated_iff _ |>.mp truncated))
  · next whole =>
      refine emit_accord host suppressed text progress progress.depth (.block name offset _ _) trivial
        fun world => ?_
      exact block_accord host suppressed name offset { progress with world } (passes world)
        (fun short => absurd (Section.isTruncated_iff _ |>.mpr short) whole)
        (fun _ stage => (behind (progress.backAt start stage) ⟨rfl, rfl⟩).onLevel ⟨rfl, rfl⟩)

/-- From any place on any level, a single pass and the rendering of what lies ahead come to the same. -/
theorem items_accord (layout : Layout) (suppressed : Bool) (pending : String) (progress : Progress ω)
    (positive : 0 < progress.depth) : ItemsAccord host layout suppressed pending progress := by
  -- the induction is on the text ahead, for all levels at once: a body is gone through one level down
  induction start : progress.place using Place.forward
    generalizing suppressed pending progress with
  | reached start ih =>
      subst start
      apply Accord.of_succ rfl
      simp only [expandItems_succ]
      rw [Section.ahead_nextSpecial layout positive progress.place]
      simp only [← Section.pushAll_append, Section.ending, Section.lastStop_pushAll]
      have text : pending.toList ++ progress.place.run (fun c => !isSpecial c) =
          (pending ++ String.ofList (progress.place.run fun c => !isSpecial c)).toList := by
        rw [String.toList_append, String.toList_ofList]
      rw [text]
      generalize pending ++ String.ofList (progress.place.run fun c => !isSpecial c) = text
      have onward {later : Place} (before : (nextSpecial progress.place).Before later) :
          ∀ suppressed pending (progress : Progress ω), 0 < progress.depth →
            progress.place = later → ItemsAccord host layout suppressed pending progress :=
        ih later (before_of_nextSpecial before)
      generalize nextSpecial progress.place = here at onward
      rw [Section.ahead_step layout positive here]
      cases sign : (signAt here).acting layout progress.depth with
      | endOfText =>
          dsimp only [Section.lastStop, Stop.ending]
          exact emit_accord host suppressed text progress progress.depth (.endsAt .endOfText) trivial
            fun _ => .ended rfl
      | closing =>
          dsimp only [Section.lastStop, Stop.ending]
          exact emit_accord host suppressed text progress progress.depth (.endsAt .closing) trivial
            fun _ => .ended rfl
      | separator =>
          dsimp only [Section.lastStop, Stop.ending]
          refine emit_accord host suppressed text progress progress.depth (.endsAt .separator) trivial
            fun world => .ended ?_
          unfold Progress.arrival Progress.moveTo
          rw [Sign.depth_of_acting_separator sign]
      | unterminated =>
          dsimp only [Section.lastStop, Stop.ending]
          have more := rest_pos_of_acting sign (by simp)
          exact emit_accord host suppressed text progress progress.depth
            (.endsAt (.unterminated here.offset here.rest)) trivial fun world =>
              unterminated_accord host suppressed (List.ne_nil_of_length_pos more)
                { progress with world }
      | plain =>
          have next := onward (.next (rest_pos_of_acting sign (by simp))) suppressed
            (text ++ String.ofList (here.rest.take 1)) (progress.moveTo (here.skip 1)) positive rfl
          unfold ItemsAccord at next
          rw [String.toList_append, String.toList_ofList] at next
          simp only [Section.pushAll_append, Section.ending] at next
          simp only [Section.lastStop_pushAll]
          exact next
      | invocation name hasBody resume =>
          have before := before_of_acting sign
          cases hasBody with
          | false =>
              dsimp only [Section.lastStop]
              refine emit_accord host suppressed text progress progress.depth
                (.call name here.offset _) trivial fun world => ?_
              refine call_accord host suppressed name here.offset _ progress.depth fun world' => ?_
              have beside := Progress.noteName_beside { progress with world } name here.offset
              refine ItemsAccord.onLevel (onward before suppressed "" _ ?_ rfl)
                ⟨beside.depth, beside.rewindPoint⟩
              exact Nat.lt_of_lt_of_eq positive beside.depth.symm
          | true =>
              refine invocation_accord host suppressed text name here.offset positive
                (fun silent noted _ => onward before silent "" _ ?_ (enter_place _))
                (fun noted beside => onward (Section.before_ahead before layout _) suppressed "" _
                  (beside.depth ▸ positive) rfl) rfl
              rw [enter_depth]
              exact Nat.succ_pos _

/-- One pass over the body at a place and the rendering of what is read there come to the same. -/
theorem pass_accord (layout : Layout) (silent : Bool) (start : Place) {progress : Progress ω}
    (positive : 0 < progress.depth) :
    Accord (Section.read layout true start).1.ending
      (progress.backAt (Section.read layout true start).2)
      (fun fuel => expandItems host layout silent fuel "" (progress.moveTo start).enter)
      (fun limit => (Section.read layout true start).1.renderPass host limit progress.depth silent
        progress.stage) := by
  have inside : Section.ahead layout (progress.depth + 1) start = Section.read layout true start := by
    rw [Section.ahead, decide_eq_true (Nat.succ_lt_succ positive)]
  rw [← inside]
  refine (items_accord host layout silent "" (progress.moveTo start).enter ?_).pass ⟨rfl, rfl⟩ positive
  rw [enter_depth]
  exact Nat.succ_pos _

end

end SiteIndex.Template

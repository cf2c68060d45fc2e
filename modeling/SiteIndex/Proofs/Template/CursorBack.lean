import SiteIndex.Proofs.Template.Arrivals
import SiteIndex.Proofs.Template.Handing
import SiteIndex.Proofs.Template.Quiet

/-!
Templates that hand the cursor of a directory on as they found it, or unset. Only `files` moves the
cursor, and a loop of it that comes to its end leaves the cursor unset, whatever is done in its body. So
it is enough that every `files` has a body, and one that no `@(` cuts short.
-/

namespace SiteIndex.Template

open SiteIndex.Listing SiteIndex.Text

/-- Where `files` asks for no body it has left the cursor unset, or found no directory. -/
theorem unset_of_answerFiles {ε σ : Type} {context : Context} {repeating : Bool}
    {scene later : Scene σ}
    (answered : (answerFiles context repeating : Action ε σ Bool) scene = (.ok false, later)) :
    context.Hands (· = .unset) later.arena := by
  intro snapshot seen
  rcases answerFiles_cases (ε := ε) context repeating scene with
    ⟨still, exhausted⟩ | ⟨id, before, directory, found, _, moved⟩
  · cases still.symm.trans answered
    exact (exhausted snapshot seen).2
  · obtain ⟨selects, rfl⟩ := Prod.mk.inj (moved.symm.trans answered)
    rw [directory, Option.bind_some, Arena.found_advance found, Option.some.injEq] at seen
    rw [← seen]
    simpa [Snapshot.advance] using Except.ok.inj selects

theorem Context.Hands.of_unmarked {context : Context} {handed : Cursor → Prop} {arena later : Arena}
    (hands : context.Hands handed arena) (same : later.unmarked = arena.unmarked) :
    context.Hands handed later := by
  intro snapshot seen
  cases directory : context.directory with
  | none => simp [directory] at seen
  | some id =>
      rw [directory, Option.bind_some] at seen
      obtain ⟨before, found, alike⟩ := Arena.found_of_unmarked same.symm seen
      have cursor : before.unmarked.cursor = snapshot.unmarked.cursor := congrArg Snapshot.cursor alike
      have kept : handed before.unmarked.cursor :=
        hands before (by rw [directory, Option.bind_some, found])
      rwa [cursor] at kept

section
variable {ε ω : Type} {host : Host ε ω} {Kept : ω → Prop} {After After' : Ending → ω → Prop}

/-- What is kept by all that a host does but by `files`, and holds once `files` asks for no body. -/
structure Resting (host : Host ε ω) (Kept : ω → Prop) : Prop where
  write : ∀ bytes world, Kept world → Kept (host.write bytes world).2
  call : ∀ widget, widget ≠ .files → ∀ repeating again world later, Kept world →
    host.call widget repeating world = (.ok again, later) → Kept later
  asked : ∀ repeating world later, host.call .files repeating world = (.ok false, later) → Kept later

namespace Section

/-- Whether no `@(` in it is left open. -/
def isWhole : Section → Bool
  | endsAt (.unterminated _ _) | endsAt .cutShort => false
  | endsAt _ => true
  | text _ next | call _ _ next => next.isWhole
  | block _ _ body next => body.isWhole && next.isWhole

/-- Whether every `files` has a body, and one in which no `@(` is left open. -/
def setsBack : Section → Bool
  | endsAt _ => true
  | text _ next => next.setsBack
  | call name _ next => Widget.ofName? name != some .files && next.setsBack
  | block name _ body next =>
      (match Widget.ofName? name with
        | some .files => body.isWhole
        | some _ => body.setsBack
        | none => true) && next.setsBack

section
variable {widget : Widget} {pass : Bool → Stage ω → Rendered ε ω}

variable (After) in
/-- What every pass over a body keeps, and every answer of its widget, all passes together keep. -/
theorem renderPasses_ends (keeps : ∀ repeating again world later, Kept world →
      host.call widget repeating world = (.ok again, later) → Kept later)
    (onePass : ∀ silent (stage : Stage ω), Kept stage.world →
      (pass silent stage).Ends fun ending world => After ending world ∧ Kept world)
    (bound : Nat) (repeating : Bool) {stage : Stage ω} (kept : Kept stage.world) :
    (renderPasses host widget pass bound repeating stage).Ends
      fun ending world => After ending world ∧ Kept world := by
  induction bound generalizing repeating stage with
  | zero =>
      rw [renderPasses_eq]
      refine Stage.ask_ends fun again later called => ?_
      cases again with
      | false => exact onePass true _ (keeps _ _ _ _ kept called)
      | true => exact nofun
  | succ bound ih =>
      rw [renderPasses_eq]
      refine Stage.ask_ends fun again later called => ?_
      have kept := keeps _ _ _ _ kept called
      cases again with
      | false => exact onePass true _ kept
      | true =>
          exact (onePass false _ kept).unlessTruncated (fun _ => id) fun _ _ _ after => ih true after.2

/-- What holds once a widget asks for no more passes holds behind all of them, if none is cut short. -/
theorem renderPasses_asked (asked : ∀ repeating world later,
      host.call widget repeating world = (.ok false, later) → Kept later)
    (whole : ∀ stage : Stage ω, (pass false stage).Ends fun ending _ => ending ≠ .truncated)
    (silent : ∀ stage : Stage ω, (pass true stage).Idle stage.world)
    (bound : Nat) (repeating : Bool) (stage : Stage ω) :
    (renderPasses host widget pass bound repeating stage).Ends fun _ world => Kept world := by
  have behind (stage : Stage ω) (kept : Kept stage.world) :
      (pass true stage).Ends fun _ world => Kept world := by
    obtain ⟨ending, diagnostics, idle⟩ := silent stage
    rw [idle]
    exact .of_world kept
  induction bound generalizing repeating stage with
  | zero =>
      rw [renderPasses_eq]
      refine Stage.ask_ends fun again later called => ?_
      cases again with
      | false => exact behind _ (asked _ _ _ called)
      | true => exact nofun
  | succ bound ih =>
      rw [renderPasses_eq]
      refine Stage.ask_ends fun again later called => ?_
      cases again with
      | false => exact behind _ (asked _ _ _ called)
      | true =>
          exact (whole _).unlessTruncated (fun _ short => absurd rfl short)
            fun _ stage _ _ => ih true stage

end

/-- How every pass over a body ends, all passes together end. -/
theorem renderBody_ends {Ended : Ending → Prop} (limit : Limit ω) {body : Section} (depth : Nat)
    (passes : ∀ silent (stage : Stage ω),
      (body.render host limit (depth + 1) silent stage).Ends fun ending _ => Ended ending)
    (silent : Bool) (widget : Option Widget) (stage : Stage ω) :
    (body.renderBody host limit depth silent widget stage).Ends fun ending _ => Ended ending := by
  have pass (silent : Bool) (stage : Stage ω) :
      (body.renderPass host limit depth silent stage).Ends fun ending _ => Ended ending :=
    passes silent _
  unfold renderBody
  split
  · exact pass true _
  · split
    · exact pass true _
    · intro ending later rendered
      have kept := renderPasses_ends (fun ending _ => Ended ending)
        (fun _ _ _ _ (_ : True) _ => trivial)
        (fun silent stage _ ending later ended => ⟨pass silent stage ending later ended, trivial⟩)
        _ false trivial ending later rendered
      exact kept.1

/-- A rendering is cut short just where an `@(` is left open. -/
theorem render_cut_iff (limit : Limit ω) (part : Section) (depth : Nat) (silent : Bool)
    (stage : Stage ω) :
    (part.render host limit depth silent stage).Ends
      fun ending _ => ending = .truncated ↔ part.isWhole = false := by
  induction part generalizing depth silent stage with
  | endsAt stop =>
      cases stop with
      | unterminated offset rest =>
          exact Stage.write_ends (fun _ _ (_ : True) => trivial) trivial silent rest
            fun _ _ => .of_world ⟨fun _ => rfl, fun _ => rfl⟩
      | cutShort => exact .of_world ⟨fun _ => rfl, fun _ => rfl⟩
      | endOfText => exact .of_world ⟨nofun, nofun⟩
      | closing => exact .of_world ⟨nofun, nofun⟩
      | separator => exact .of_world ⟨nofun, nofun⟩
  | text content next ih =>
      exact Stage.write_ends (fun _ _ (_ : True) => trivial) trivial silent content
        fun stage _ => ih depth silent stage
  | call name offset next ih =>
      rw [render_call]
      split
      · split
        · exact ih depth silent _
        · exact Stage.ask_ends fun _ _ _ => ih depth silent _
      · exact ih depth silent _
  | block name offset body next body_ih ih =>
      have passes := renderBody_ends limit depth (body_ih (depth + 1)) silent (Widget.ofName? name)
        (stage.noteName name offset)
      rw [render_block]
      refine passes.unlessTruncated (fun world cut => ⟨fun _ => ?_, fun _ => rfl⟩)
        fun ending stage whole cut => ?_
      · exact Bool.and_eq_false_iff.mpr (.inl (cut.mp rfl))
      · have inner : body.isWhole = true := by
          rw [← Bool.not_eq_false]
          exact fun short => whole (cut.mpr short)
        rw [isWhole, inner, Bool.true_and]
        exact ih depth silent stage

theorem render_lands_whole (limit : Limit ω) (part : Section) (depth : Nat) (silent : Bool)
    (stage : Stage ω) :
    (part.render host limit depth silent stage).Lands fun _ => part.isWhole = true := by
  intro ending later rendered whole
  have cut := render_cut_iff limit part depth silent stage ending later rendered
  rw [← Bool.not_eq_false]
  exact fun short => whole (cut.mpr short)

theorem renderBody_lands_whole (limit : Limit ω) (body : Section) (depth : Nat) (silent : Bool)
    (widget : Option Widget) (stage : Stage ω) :
    (body.renderBody host limit depth silent widget stage).Lands fun _ => body.isWhole = true := by
  have ends := @renderBody_ends _ _ host (fun ending => ending ≠ .truncated → body.isWhole = true)
    limit body depth (render_lands_whole limit body (depth + 1)) silent widget stage
  exact ends

theorem render_whole (limit : Limit ω) {part : Section} (whole : part.isWhole = true) (depth : Nat)
    (silent : Bool) (stage : Stage ω) :
    (part.render host limit depth silent stage).Ends fun ending _ => ending ≠ .truncated := by
  intro ending later rendered short
  have cut := (render_cut_iff limit part depth silent stage ending later rendered).mp short
  exact Bool.false_ne_true (cut.symm.trans whole)

/-- A body of `files` is left only once `files` asks for no more passes; any other body is left after passes
each of which keeps what holds. -/
theorem renderBody_setsBack (resting : Resting host Kept) (limit : Limit ω) {body : Section}
    {widget : Option Widget} {depth : Nat}
    (whole : widget = some .files → body.isWhole = true)
    (inner : ∀ widget', widget = some widget' → widget' ≠ .files → ∀ silent (stage : Stage ω),
      Kept stage.world → (body.render host limit (depth + 1) silent stage).Ends fun _ world => Kept world)
    (silent : Bool) {stage : Stage ω} (kept : Kept stage.world) :
    (body.renderBody host limit depth silent widget stage).Ends fun _ world => Kept world := by
  have quiet := renderPass_silent host limit depth body
  have silently : (body.renderPass host limit depth true stage).Ends fun _ world => Kept world := by
    obtain ⟨ending, diagnostics, idle⟩ := quiet stage
    rw [idle]
    exact .of_world kept
  unfold renderBody
  cases widget with
  | none => exact silently
  | some widget =>
      dsimp only
      split
      · exact silently
      by_cases loop : widget = .files
      · subst loop
        have uncut (stage : Stage ω) : (body.renderPass host limit depth false stage).Ends
            fun ending _ => ending ≠ .truncated :=
          render_whole limit (whole rfl) (depth + 1) false _
        exact renderPasses_asked resting.asked uncut quiet _ _ _
      · intro ending later rendered
        refine (renderPasses_ends (fun _ _ => True)
          (fun _ _ _ _ kept called => resting.call widget loop _ _ _ _ kept called)
          (fun silent stage kept ending later ended => ⟨trivial, ?_⟩) _ false kept ending later
          rendered).2
        refine inner widget rfl loop silent _ ?_ ending later ended
        rwa [Stage.reportDepth_world]

/-- What nothing but `files` changes is kept by a section in which every loop of `files` comes to its
end. -/
theorem render_setsBack (resting : Resting host Kept) (limit : Limit ω) {part : Section}
    (setsBack : part.setsBack = true) (depth : Nat) (silent : Bool) {stage : Stage ω}
    (kept : Kept stage.world) :
    (part.render host limit depth silent stage).Ends fun _ world => Kept world := by
  induction part generalizing depth silent stage with
  | endsAt stop =>
      cases stop with
      | unterminated offset rest =>
          refine Stage.write_ends resting.write ?_ silent rest fun _ kept => .of_world kept
          exact kept
      | _ => exact .of_world kept
  | text content next ih =>
      exact Stage.write_ends resting.write kept silent content fun _ kept =>
        ih setsBack depth silent kept
  | call name offset next ih =>
      obtain ⟨other, onward⟩ := Bool.and_eq_true_iff.mp setsBack
      have noted : Kept (stage.noteName name offset).world := by rwa [Stage.noteName_world]
      rw [render_call]
      split
      · next widget named =>
        have apart : widget ≠ .files := by
          rintro rfl
          simp [named] at other
        split
        · exact ih onward depth silent noted
        · exact Stage.ask_ends fun _ _ called =>
            ih onward depth silent (resting.call _ apart _ _ _ _ noted called)
      · exact ih onward depth silent noted
  | block name offset body next body_ih ih =>
      obtain ⟨inner, onward⟩ := Bool.and_eq_true_iff.mp setsBack
      have noted : Kept (stage.noteName name offset).world := by rwa [Stage.noteName_world]
      rw [render_block]
      refine (renderBody_setsBack resting limit (fun files => ?_) (fun widget named other => ?_) silent
        noted).unlessTruncated (fun _ => id) fun _ _ _ kept => ih onward depth silent kept
      · simpa only [files] using inner
      · have setsBack : body.setsBack = true := by
          simp only [named] at inner
          cases widget <;> first | exact absurd rfl other | exact inner
        exact fun silent _ kept => body_ih setsBack (depth + 1) silent kept

end Section
end

/-- Whatever `handed` is, if it holds of a cursor that is unset, it is handed on. -/
theorem resting_hands {ε σ : Type} (sink : Sink ε σ) (context : Context) {handed : Cursor → Prop}
    (unset : handed .unset) :
    Resting (sceneHost sink context) fun scene : Scene σ => context.Hands handed scene.arena where
  write bytes scene hands := by
    obtain ⟨out, written⟩ := Action.onlyWrites_writeBytes sink bytes scene
    change context.Hands handed (Action.writeBytes sink bytes scene).2.arena
    rw [written]
    exact hands
  call widget other repeating again scene later hands called := by
    have spares := answer_spares sink context widget repeating scene
    change answer sink context widget repeating scene = _ at called
    rw [called] at spares
    exact hands.of_unmarked (spares.cursors other)
  asked repeating scene later called := by
    intro snapshot seen
    rw [unset_of_answerFiles called snapshot seen]
    exact unset

/-- A template whose next section sets the cursor back keeps it where it may be handed on. -/
theorem keepsCursor_of_setsBack {handed : Cursor → Prop} (unset : handed .unset) {template : Template}
    (setsBack : template.upcoming.1.setsBack = true) : KeepsCursor handed template := by
  intro context fuel scene later ending after hands ended
  obtain ⟨rendered, _⟩ := renderUpcoming_of_expand _ ended
  have kept : context.Hands handed
      ((Stage.mk template.diagnostics scene).reportDepth (template.depth + 1)).world.arena := by
    rwa [Stage.reportDepth_world]
  exact Section.render_setsBack (resting_hands FileWriter.sink context unset) _ setsBack _ false kept
    _ _ rendered

/-- What is done to a snapshot leaves it one. -/
theorem cursor_of_hands {context : Context} {arena : Arena} (hands : context.Hands (· = .unset) arena) :
    (context.directory.bind arena.get?).map Snapshot.cursor =
      (context.directory.bind (arena.still context.directory).get?).map Snapshot.cursor := by
  have still := Arena.get?_still arena context.directory
  rw [still]
  cases seen : context.directory.bind arena.get? with
  | none => rfl
  | some snapshot => exact congrArg some (hands snapshot seen)

/-- Two texts that set the cursor back leave it unset. -/
theorem cursorsMeet_of_setsBack {text text' : String}
    (setsBack : (withLayout text .bodyOnly).upcoming.1.setsBack = true)
    (setsBack' : (withLayout text' .bodyOnly).upcoming.1.setsBack = true) :
    CursorsMeet (· = .unset) text text' := by
  intro root hidden context fuel fuel' scene scene' later later' ending ending' after after' related
    hands ended ended'
  have hands' : context.Hands (· = .unset) scene'.arena :=
    hands.of_unmarked related.accordant.unmarked.symm
  obtain ⟨content, holds⟩ := related.holds
  obtain ⟨content', holds'⟩ := related.files.isFile holds
  rw [related.out] at holds'
  have still := (expand_leaves holds ended).2.still
  have still' := (expand_leaves holds' ended').2.still
  have keeps : KeepsCursor (· = .unset) (withLayout text .bodyOnly) :=
    @keepsCursor_of_setsBack (· = .unset) rfl _ setsBack
  have keeps' : KeepsCursor (· = .unset) (withLayout text' .bodyOnly) :=
    @keepsCursor_of_setsBack (· = .unset) rfl _ setsBack'
  rw [cursor_of_hands (keeps hands ended), cursor_of_hands (keeps' hands' ended'), still, still',
    Arena.still_of_unmarked related.accordant.unmarked]

end SiteIndex.Template

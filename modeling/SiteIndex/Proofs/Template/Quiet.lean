import SiteIndex.Proofs.Listing.Coming
import SiteIndex.Proofs.Listing.Ways
import SiteIndex.Proofs.Template.Answers

/-!
What each widget changes. All but three of them write and do nothing else, and never ask for a body. The
three that do ask keep their place in the scene: `files` in the cursor of the snapshot, `pwd` in the marks
above it, and `root` in the steps that are still to be written.
-/

namespace SiteIndex.Template

open SiteIndex.Listing

/-- The widgets that can ask for their body. -/
def Widget.repeats : Widget → Bool
  | .files | .pwd | .root => true
  | _ => false

section
variable {ε σ α β : Type}

namespace Action

/-- Changes nothing in the scene but what has been written. -/
def OnlyWrites (action : Action ε σ α) : Prop :=
  ∀ scene, ∃ out, (action scene).2 = { scene with out }

/-- Only writes, and asks for no body. -/
structure Quiet (action : Action ε σ Bool) : Prop where
  writes : OnlyWrites action
  declines : ∀ scene, (action scene).1 ≠ .ok true

theorem OnlyWrites.bind {action : Action ε σ α} {next : α → Action ε σ β} (first : OnlyWrites action)
    (second : ∀ value, OnlyWrites (next value)) : OnlyWrites (action >>= next) := by
  intro scene
  obtain ⟨out, written⟩ := first scene
  rw [bind_apply]
  revert written
  rcases action scene with ⟨failure | value, later⟩
  · exact fun written => ⟨out, written⟩
  · rintro rfl
    exact second value { scene with out }

theorem onlyWrites_pure (value : α) : OnlyWrites (pure value : Action ε σ α) :=
  fun scene => ⟨scene.out, rfl⟩

variable (sink : Sink ε σ) (context : Context)

theorem onlyWrites_writeBytes (bytes : ByteArray) : OnlyWrites (writeBytes sink bytes) := by
  intro scene
  unfold writeBytes
  split
  · exact ⟨scene.out, rfl⟩
  · exact ⟨_, rfl⟩

theorem onlyWrites_writeText (text : String) : OnlyWrites (writeText sink text) :=
  onlyWrites_writeBytes sink text.toUTF8

theorem onlyWrites_writeText_then (text : String) (value : α) :
    OnlyWrites (writeText sink text >>= fun _ => pure value) :=
  (onlyWrites_writeText sink text).bind fun _ => onlyWrites_pure value

/-- Put together from writes and from looks at the scene. -/
inductive Composed : {α : Type} → Action ε σ α → Prop
  | pure {α : Type} (value : α) : Composed (Pure.pure value)
  | bind {α β : Type} {action : Action ε σ α} {next : α → Action ε σ β} (first : Composed action)
      (second : ∀ value, Composed (next value)) : Composed (action >>= next)
  | write (bytes : ByteArray) : Composed (writeBytes sink bytes)
  | files : Composed (files sink)
  | snapshot : Composed (snapshot? context)
  | levels : Composed (levelsBelowRoot context)

/-- Put together like that, and asks for no body. -/
structure Plain (action : Action ε σ Bool) : Prop where
  composed : Composed sink context action
  declines : ∀ scene, (action scene).1 ≠ .ok true

variable {sink context}

theorem Composed.onlyWrites {action : Action ε σ α} (composed : Composed sink context action) :
    OnlyWrites action := by
  induction composed with
  | pure value => exact onlyWrites_pure value
  | bind _ _ first second => exact first.bind second
  | write bytes => exact onlyWrites_writeBytes sink bytes
  | files | snapshot | levels => exact fun scene => ⟨scene.out, rfl⟩

theorem Composed.discard {action : Action ε σ α} (composed : Composed sink context action) :
    Composed sink context (Functor.discard action) :=
  composed.bind fun _ => .pure _

theorem Composed.thenPlain {action : Action ε σ α} {next : α → Action ε σ Bool}
    (first : Composed sink context action) (second : ∀ value, Plain sink context (next value)) :
    Plain sink context (action >>= next) := by
  refine ⟨first.bind fun value => (second value).composed, fun scene => ?_⟩
  rw [bind_apply]
  rcases action scene with ⟨failure | value, later⟩
  · exact nofun
  · exact (second value).declines later

theorem plain_pure : Plain sink context (pure false) :=
  ⟨.pure false, fun _ => nofun⟩

/-- What is done before a widget asks for no body. -/
theorem Composed.thenNoBody {action : Action ε σ α} (composed : Composed sink context action) :
    Plain sink context (action >>= fun _ => Pure.pure false) :=
  composed.thenPlain fun _ => plain_pure

theorem composed_writeText (text : String) : Composed sink context (writeText sink text) :=
  .write text.toUTF8

theorem composed_writePieces (pieces : List String) :
    Composed sink context (writePieces sink pieces) := by
  induction pieces with
  | nil => exact .pure ()
  | cons piece rest ih => exact (composed_writeText piece).bind fun _ => ih

theorem plain_onSnapshot {next : Option Snapshot → Action ε σ Bool}
    (none : Plain sink context (next none)) (some : ∀ snapshot, Plain sink context (next (some snapshot))) :
    Plain sink context (snapshot? context >>= next) := by
  refine Composed.snapshot.thenPlain fun found => ?_
  cases found with
  | none => exact none
  | some snapshot => exact some snapshot

end Action

open SiteIndex.Template.Action

variable {sink : Sink ε σ} {context : Context}

theorem composed_copyFrom (lines : Nat) (reader : ReadAhead) :
    Composed sink context (copyFrom sink lines reader) := by
  induction lines generalizing reader with
  | zero => exact .pure ()
  | succ lines ih =>
      refine Composed.files.bind fun files => ?_
      cases reader.takeLine files with
      | error cause => exact .pure ()
      | ok taken =>
          dsimp only
          split
          · exact .pure ()
          · exact (Composed.write taken.1).bind fun _ => ih taken.2

theorem composed_copyLines (path : String) : Composed sink context (copyLines sink context path) := by
  refine Composed.files.bind fun files => ?_
  cases files.find path with
  | error cause => exact .pure false
  | ok found => exact (composed_copyFrom _ _).bind fun _ => .pure true

variable (sink context) in
/-- A widget that never asks for its body is put together from writes and looks. -/
theorem plain_answer {widget : Widget} (once : widget.repeats = false) (repeating : Bool) :
    Plain sink context (answer sink context widget repeating) := by
  cases widget with
  | files | pwd | root => cases once
  | now => exact (composed_writeText _).thenNoBody
  | content =>
      refine plain_onSnapshot plain_pure fun snapshot => ?_
      refine (composed_copyLines _).thenPlain fun opened => ?_
      cases opened with
      | true => exact plain_pure
      | false => exact (composed_copyLines _).discard.thenNoBody
  | date =>
      change Plain sink context (answerDate sink context)
      unfold answerDate
      split
      · exact (composed_writePieces _).thenNoBody
      · exact plain_pure
  | fileAlt | fileName =>
      exact plain_onSnapshot plain_pure fun _ => (composed_writeText _).thenNoBody
  | fileDesc =>
      refine plain_onSnapshot plain_pure fun snapshot => ?_
      dsimp only
      split
      · exact (composed_copyLines _).discard.thenNoBody
      · exact plain_pure
  | fileHref =>
      refine plain_onSnapshot plain_pure fun snapshot => ?_
      dsimp only
      split
      · exact Composed.files.thenPlain fun _ => (composed_writeText _).thenNoBody
      · exact plain_pure
  | fileIcon =>
      refine plain_onSnapshot plain_pure fun snapshot => ?_
      dsimp only
      split
      · refine Composed.files.thenPlain fun files => ?_
        split
        · exact (composed_writeText _).thenNoBody
        · exact Composed.levels.thenPlain fun levels =>
            (composed_writePieces _).thenPlain fun _ => (composed_writeText _).thenNoBody
      · exact plain_pure
  | fileSize =>
      refine plain_onSnapshot plain_pure fun snapshot => ?_
      dsimp only
      split
      · split
        · exact plain_pure
        · exact (composed_writePieces _).thenNoBody
      · exact plain_pure
  | news =>
      change Plain sink context (answerNews sink context)
      unfold answerNews
      split
      · exact (composed_copyLines _).discard.thenNoBody
      · exact plain_pure
  | newsName =>
      change Plain sink context (answerNewsName sink context)
      unfold answerNewsName
      split
      · exact (composed_writeText _).thenNoBody
      · exact plain_pure
  | title =>
      change Plain sink context (answerTitle sink context)
      unfold answerTitle
      split
      · exact (composed_writeText _).thenNoBody
      · exact plain_pure

variable (sink context) in
/-- A widget that never asks for its body changes nothing but what has been written. -/
theorem quiet_answer {widget : Widget} (once : widget.repeats = false) (repeating : Bool) :
    Quiet (answer sink context widget repeating) :=
  have plain := plain_answer sink context once repeating
  ⟨plain.composed.onlyWrites, plain.declines⟩

end

section
variable {ε σ α : Type} {sink : Sink ε σ} {context : Context}

/-- `files` does nothing if it sees no listing, or one that an inner invocation has come to the end of;
otherwise it moves the cursor on and asks for its body if there is an entry there. -/
theorem answerFiles_cases (context : Context) (repeating : Bool) (scene : Scene σ) :
    ((answerFiles context repeating : Action ε σ Bool) scene = (.ok false, scene) ∧
      ∀ snapshot, context.directory.bind scene.arena.get? = some snapshot →
        repeating = true ∧ snapshot.cursor = .unset) ∨
    ∃ id snapshot, context.directory = some id ∧ scene.arena.get? id = some snapshot ∧
      (repeating = true → snapshot.cursor ≠ .unset) ∧
      (answerFiles context repeating : Action ε σ Bool) scene =
        (.ok snapshot.advance.1, { scene with arena := (scene.arena.advance id).2 }) := by
  unfold answerFiles
  rw [Action.get_apply]
  cases directory : context.directory with
  | none => exact .inl ⟨rfl, nofun⟩
  | some id =>
      dsimp only
      cases found : scene.arena.get? id with
      | none => exact .inl ⟨rfl, fun snapshot seen => nomatch found.symm.trans seen⟩
      | some snapshot =>
          dsimp only
          by_cases exhausted : repeating && snapshot.cursor == .unset
          · rw [if_pos exhausted]
            refine .inl ⟨rfl, fun other seen => ?_⟩
            cases found.symm.trans seen
            simpa using exhausted
          · rw [if_neg exhausted, Action.set_apply]
            refine .inr ⟨id, snapshot, rfl, found, ?_, ?_⟩
            · rintro rfl unset
              simp [unset] at exhausted
            · simp only [Arena.advance, found]
              rfl

/-- A widget that writes and then asks for its body. -/
theorem writeText_thenAsks {text : String} {scene later : Scene σ} {again : Bool}
    (answered : (Action.writeText sink text >>= fun _ => pure true : Action ε σ Bool) scene =
      (.ok again, later)) :
    again = true ∧ Action.writeText sink text scene = (.ok (), later) := by
  rw [Action.bind_apply] at answered
  revert answered
  rcases Action.writeText sink text scene with ⟨failure | value, written⟩
  · exact nofun
  · rintro ⟨⟩
    exact ⟨rfl, rfl⟩

/-- The arena in which `pwd` takes a step: its first invocation has marked the way. -/
theorem unmarked_begun (arena : Arena) (id : Nat) (repeating : Bool) :
    (if repeating then arena else arena.markWay id).unmarked = arena.unmarked := by
  split
  · rfl
  · exact arena.unmarked_markWay id

/-- `pwd` takes the next step down on the way that its first invocation has marked. -/
theorem answerPwd_eq {id : Nat} (directory : context.directory = some id) (repeating : Bool)
    (scene : Scene σ) :
    answerPwd sink context repeating scene =
      match (if repeating then scene.arena else scene.arena.markWay id).nextSegment id with
      | (none, arena) => (.ok false, { scene with arena })
      | (some name, arena) =>
          (Action.writeText sink name >>= fun _ => pure true : Action ε σ Bool)
            { scene with arena } := by
  unfold answerPwd
  simp only [directory]
  rw [Action.get_apply, Action.set_apply]
  rcases (if repeating then scene.arena else scene.arena.markWay id).nextSegment id with
    ⟨_ | name, arena⟩ <;> rfl

theorem answerPwd_none (directory : context.directory = none) (repeating : Bool)
    (scene : Scene σ) :
    (answerPwd sink context repeating : Action ε σ Bool) scene = (.ok false, scene) := by
  unfold answerPwd
  simp only [directory]
  rfl

/-- The levels that the directory lies below its root, none if there is no directory. -/
def Context.levels (context : Context) (arena : Arena) : Nat :=
  (context.directory.map arena.levelsBelowRoot).getD 0

theorem Action.levels_apply (context : Context) (next : Nat → Action ε σ α) (scene : Scene σ) :
    (levelsBelowRoot context >>= next) scene = next (context.levels scene.arena) scene := rfl

theorem Context.levels_eq {id : Nat} (directory : context.directory = some id) (arena : Arena) :
    context.levels arena = arena.levelsBelowRoot id := by
  rw [levels, directory]
  rfl

/-- `root` takes one of the steps up, as many as there are levels to begin with. -/
theorem answerRoot_eq (repeating : Bool) (scene : Scene σ) :
    answerRoot sink context repeating scene =
      match if repeating then scene.rootSteps else context.levels scene.arena with
      | 0 => (.ok false, { scene with rootSteps := 0 })
      | steps + 1 =>
          (Action.writeText sink ".." >>= fun _ => pure true : Action ε σ Bool)
            { scene with rootSteps := steps } := by
  have stepUp (scene : Scene σ) : answerRoot sink context true scene =
      match scene.rootSteps with
      | 0 => (.ok false, { scene with rootSteps := 0 })
      | steps + 1 =>
          (Action.writeText sink ".." >>= fun _ => pure true : Action ε σ Bool)
            { scene with rootSteps := steps } := by
    obtain ⟨arena, steps, out⟩ := scene
    cases steps <;> rfl
  cases repeating with
  | true => exact stepUp scene
  | false => exact stepUp { scene with rootSteps := context.levels scene.arena }

/-- What an answer of a widget leaves alone. Only `files` moves a cursor, and no cursor but that of the
directory; only `pwd` changes marks, and only `root` the steps that are still to be written. -/
structure Spares (context : Context) (widget : Widget) (scene later : Scene σ) : Prop where
  still : later.arena.still context.directory = scene.arena.still context.directory
  cursors : widget ≠ .files → later.arena.unmarked = scene.arena.unmarked
  marks : widget ≠ .pwd → later.arena.markOf = scene.arena.markOf
  steps : widget ≠ .root → later.rootSteps = scene.rootSteps

theorem Spares.rungs {widget : Widget} {scene later : Scene σ}
    (spares : Spares context widget scene later) : later.arena.rungs = scene.arena.rungs :=
  Arena.rungs_of_still spares.still

theorem Spares.of_arena {widget : Widget} {scene later : Scene σ} (arena : later.arena = scene.arena)
    (steps : widget ≠ .root → later.rootSteps = scene.rootSteps) :
    Spares context widget scene later :=
  ⟨by rw [arena], fun _ => by rw [arena], fun _ => by rw [arena], steps⟩

theorem Spares.then_writes {widget : Widget} {action : Action ε σ α} (writes : Action.OnlyWrites action)
    {scene between : Scene σ} (spares : Spares context widget scene between) :
    Spares context widget scene (action between).2 := by
  obtain ⟨out, written⟩ := writes between
  rw [written]
  exact ⟨spares.still, spares.cursors, spares.marks, spares.steps⟩

theorem answerFiles_spares (context : Context) (repeating : Bool) (scene : Scene σ) :
    Spares context .files scene ((answerFiles context repeating : Action ε σ Bool) scene).2 := by
  rcases answerFiles_cases (ε := ε) context repeating scene with
    ⟨still, _⟩ | ⟨id, snapshot, directory, _, _, moved⟩
  · rw [still]
    exact .of_arena rfl fun _ => rfl
  · rw [moved]
    refine ⟨?_, fun apart => absurd rfl apart,
      fun _ => funext (scene.arena.markOf_advance id), fun _ => rfl⟩
    rw [directory]
    exact scene.arena.still_advance id

theorem answerPwd_spares (sink : Sink ε σ) (context : Context) (repeating : Bool) (scene : Scene σ) :
    Spares context .pwd scene (answerPwd sink context repeating scene).2 := by
  cases directory : context.directory with
  | none =>
      rw [answerPwd_none directory]
      exact .of_arena rfl fun _ => rfl
  | some id =>
      have marked := unmarked_begun scene.arena id repeating
      rw [answerPwd_eq directory]
      generalize (if repeating then scene.arena else scene.arena.markWay id) = arena at marked
      have stepped := (arena.unmarked_nextSegment id).trans marked
      revert stepped
      rcases arena.nextSegment id with ⟨segment, later⟩
      intro stepped
      have spares : Spares context .pwd scene { scene with arena := later } :=
        ⟨Arena.still_of_unmarked stepped _, fun _ => stepped, fun apart => absurd rfl apart, fun _ => rfl⟩
      cases segment with
      | none => exact spares
      | some name => exact spares.then_writes (Action.onlyWrites_writeText_then sink name true)

theorem answerRoot_spares (sink : Sink ε σ) (context : Context) (repeating : Bool) (scene : Scene σ) :
    Spares context .root scene (answerRoot sink context repeating scene).2 := by
  have spares (steps : Nat) : Spares context .root scene { scene with rootSteps := steps } :=
    .of_arena rfl fun apart => absurd rfl apart
  rw [answerRoot_eq]
  split
  · exact spares 0
  · exact (spares _).then_writes (Action.onlyWrites_writeText_then sink ".." true)

theorem answer_spares (sink : Sink ε σ) (context : Context) (widget : Widget) (repeating : Bool)
    (scene : Scene σ) :
    Spares context widget scene (answer sink context widget repeating scene).2 := by
  by_cases once : widget.repeats = false
  · exact Spares.then_writes (quiet_answer sink context once repeating).writes
      (.of_arena rfl fun _ => rfl)
  · cases widget with
    | files => exact answerFiles_spares context repeating scene
    | pwd => exact answerPwd_spares sink context repeating scene
    | root => exact answerRoot_spares sink context repeating scene
    | _ => exact absurd rfl once

end
end SiteIndex.Template

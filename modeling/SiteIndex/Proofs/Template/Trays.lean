import SiteIndex.Proofs.Template.Curtailed
import SiteIndex.Proofs.Template.Quiet

/-!
Expansions into trays. In a tray with room for so many bytes stands what a tray without a limit would hold, as
far as the room goes, and the expansion fails exactly where that is not all.
-/

namespace SiteIndex

theorem extract_of_size_le {bytes : ByteArray} {stop : Nat} (short : bytes.size ≤ stop) :
    bytes.extract 0 stop = bytes := by
  apply ByteArray.ext
  rw [ByteArray.data_extract]
  exact Array.extract_eq_self_of_le short

theorem extract_append_of_le {bytes : ByteArray} {stop : Nat} (before : stop ≤ bytes.size)
    (more : ByteArray) : (bytes ++ more).extract 0 stop = bytes.extract 0 stop := by
  rw [ByteArray.extract_append, Nat.zero_sub, Nat.sub_eq_zero_of_le before]
  simp

namespace Tray

/-- A tray without a limit, and one that holds the same and has room up to `cap` bytes. -/
structure Level (cap : Nat) (tray tray' : Tray) : Prop where
  limited : tray' = { tray with room := some (cap - tray.held.size) }
  roomy : tray.room = none
  within : tray.held.size ≤ cap

/-- A tray without a limit that holds more than `cap` bytes, and one that holds the first of these. -/
structure Over (cap : Nat) (tray tray' : Tray) : Prop where
  held : tray'.held = tray.held.extract 0 cap
  roomy : tray.room = none
  beyond : cap < tray.held.size

variable {cap : Nat} {tray tray' : Tray}

theorem write_roomy (roomy : tray.room = none) (bytes : ByteArray) :
    tray.write bytes = (.ok (), { tray with held := tray.held ++ bytes }) := by
  unfold write
  rw [roomy]

theorem Over.write (spilled : Over cap tray tray') (bytes : ByteArray) :
    Over cap (tray.write bytes).2 tray' := by
  rw [write_roomy spilled.roomy]
  refine ⟨?_, spilled.roomy, ?_⟩
  · rw [spilled.held, extract_append_of_le (Nat.le_of_lt spilled.beyond)]
  · have beyond := spilled.beyond
    rw [ByteArray.size_append]
    omega

/-- A write into both: the second one takes all, or as much as there is room for. -/
theorem Level.write (level : Level cap tray tray') (bytes : ByteArray) :
    Template.Curtailed (Level cap) (Over cap) (tray.write bytes) (tray'.write bytes) := by
  obtain ⟨rfl, roomy, within⟩ := level
  rw [write_roomy roomy]
  unfold Tray.write
  dsimp only
  split
  · next fits =>
    refine .same ⟨?_, roomy, ?_⟩
    · rw [ByteArray.size_append, Nat.sub_sub]
    · rw [ByteArray.size_append]
      omega
  · next spilled =>
    refine .stopped TrayFull.full ⟨?_, roomy, ?_⟩
    · rw [ByteArray.extract_append, extract_of_size_le within, Nat.zero_sub]
    · rw [ByteArray.size_append]
      omega

end Tray

namespace Template

open SiteIndex.Listing SiteIndex.Template.Action

variable {α β : Type} {cap : Nat} {context : Context}

/-- Scenes that are the same but for the room in the tray. -/
inductive Scene.Level (cap : Nat) : Scene Tray → Scene Tray → Prop
  | beside (arena : Arena) (steps : Nat) {tray tray' : Tray} (level : Tray.Level cap tray tray') :
      Level cap ⟨arena, steps, tray⟩ ⟨arena, steps, tray'⟩

def Scene.Over (cap : Nat) (scene scene' : Scene Tray) : Prop :=
  Tray.Over cap scene.out scene'.out

/-- An action for which it makes no difference how much room there is until that is used up. -/
structure Action.Even (action : Action TrayFull Tray α) : Prop where
  beside : ∀ {cap scene scene'}, Scene.Level cap scene scene' →
    Curtailed (Scene.Level cap) (Scene.Over cap) (action scene) (action scene')
  alone : ∀ {cap scene scene'}, Scene.Over cap scene scene' → Scene.Over cap (action scene).2 scene'

namespace Action

/-- Does not look at the tray, and leaves it alone. -/
def Apart (action : Action TrayFull Tray α) : Prop :=
  ∀ arena steps, ∃ value arena' steps', ∀ out,
    action ⟨arena, steps, out⟩ = (.ok value, ⟨arena', steps', out⟩)

theorem Apart.even {action : Action TrayFull Tray α} (apart : Apart action) : Even action where
  beside := by
    rintro cap _ _ ⟨arena, steps, level⟩
    obtain ⟨value, arena', steps', acts⟩ := apart arena steps
    rw [acts, acts]
    exact .same (.beside arena' steps' level)
  alone := by
    rintro cap ⟨arena, steps, out⟩ scene' spilled
    obtain ⟨value, arena', steps', acts⟩ := apart arena steps
    rw [acts]
    exact spilled

theorem even_pure (value : α) : Even (pure value) :=
  Apart.even fun arena steps => ⟨value, arena, steps, fun _ => rfl⟩

theorem Even.bind {action : Action TrayFull Tray α} {next : α → Action TrayFull Tray β}
    (first : Even action) (second : ∀ value, Even (next value)) : Even (action >>= next) where
  beside := by
    intro cap scene scene' level
    rw [bind_apply, bind_apply]
    have answers := first.beside level
    revert answers
    generalize action scene = answer
    generalize action scene' = answer'
    intro answers
    cases answers with
    | same level => exact (second _).beside level
    | stopped failure spilled =>
        refine .stopped failure ?_
        rcases answer with ⟨broken | value, later⟩
        · exact spilled
        · exact (second value).alone spilled
  alone := by
    intro cap scene scene' spilled
    rw [bind_apply]
    have answers := first.alone spilled
    revert answers
    rcases action scene with ⟨broken | value, later⟩
    · exact id
    · exact (second value).alone

theorem even_writeBytes (bytes : ByteArray) : Even (writeBytes Tray.sink bytes) where
  beside := by
    intro cap _ _ sides
    obtain @⟨arena, steps, tray, tray', level⟩ := sides
    have written := level.write bytes
    unfold writeBytes
    split
    · exact .same (.beside arena steps level)
    · change Curtailed (Scene.Level cap) (Scene.Over cap)
        ((tray.write bytes).1, ⟨arena, steps, (tray.write bytes).2⟩)
        ((tray'.write bytes).1, ⟨arena, steps, (tray'.write bytes).2⟩)
      revert written
      generalize tray.write bytes = answer
      generalize tray'.write bytes = answer'
      intro written
      cases written with
      | same level => exact .same (.beside arena steps level)
      | stopped failure spilled => exact .stopped failure spilled
  alone := by
    intro cap scene scene' spilled
    unfold writeBytes
    split
    · exact spilled
    · exact Tray.Over.write spilled bytes

theorem even_writeText (text : String) : Even (writeText Tray.sink text) :=
  even_writeBytes text.toUTF8

/-- What is put together from writes and looks is even. -/
theorem Composed.even {action : Action TrayFull Tray α} (composed : Composed Tray.sink context action) :
    Even action := by
  induction composed with
  | pure value => exact even_pure value
  | bind _ _ first second => exact first.bind second
  | write bytes => exact even_writeBytes bytes
  | files =>
      refine ⟨?_, id⟩
      rintro cap _ _ ⟨arena, steps, rfl, roomy, within⟩
      exact .same (.beside arena steps ⟨rfl, roomy, within⟩)
  | snapshot =>
      exact Apart.even fun arena steps => ⟨context.directory.bind arena.get?, arena, steps, fun _ => rfl⟩
  | levels => exact Apart.even fun arena steps => ⟨context.levels arena, arena, steps, fun _ => rfl⟩

end Action

theorem even_answerFiles (context : Context) (repeating : Bool) :
    Even (answerFiles context repeating : Action TrayFull Tray Bool) := by
  refine Apart.even fun arena steps => ?_
  unfold answerFiles
  cases context.directory with
  | none => exact ⟨false, arena, steps, fun _ => rfl⟩
  | some id =>
      simp only [get_apply]
      cases arena.get? id with
      | none => exact ⟨false, arena, steps, fun _ => rfl⟩
      | some snapshot =>
          dsimp only
          split
          · exact ⟨false, arena, steps, fun _ => rfl⟩
          · exact ⟨(arena.advance id).1, (arena.advance id).2, steps, fun _ => rfl⟩

theorem even_answerPwd (context : Context) (repeating : Bool) :
    Even (answerPwd Tray.sink context repeating) := by
  cases directory : context.directory with
  | none =>
      exact Apart.even fun arena steps => ⟨false, arena, steps, fun _ => answerPwd_none directory _ _⟩
  | some id =>
      -- the step is taken before anything is written
      let next (arena : Arena) : Option String × Arena :=
        (if repeating then arena else arena.markWay id).nextSegment id
      let step : Action TrayFull Tray (Option String) := fun scene =>
        (.ok (next scene.arena).1, { scene with arena := (next scene.arena).2 })
      have apart : Apart step := fun arena steps =>
        ⟨(next arena).1, (next arena).2, steps, fun _ => rfl⟩
      have split : answerPwd Tray.sink context repeating = step >>= fun segment =>
          segment.elim (pure false) fun name => writeText Tray.sink name >>= fun _ => pure true := by
        funext scene
        rw [answerPwd_eq directory, bind_apply]
        dsimp only [step, next]
        rcases (if repeating then scene.arena else scene.arena.markWay id).nextSegment id with
          ⟨_ | name, arena⟩ <;> rfl
      rw [split]
      refine apart.even.bind fun segment => ?_
      cases segment with
      | none => exact even_pure false
      | some name => exact (even_writeText name).bind fun _ => even_pure true

theorem even_answerRoot (context : Context) (repeating : Bool) :
    Even (answerRoot Tray.sink context repeating) := by
  -- the step is counted before anything is written
  let ahead (arena : Arena) (steps : Nat) : Nat := if repeating then steps else context.levels arena
  let step : Action TrayFull Tray Nat := fun scene =>
    (.ok (ahead scene.arena scene.rootSteps),
      { scene with rootSteps := ahead scene.arena scene.rootSteps - 1 })
  have apart : Apart step := fun arena steps =>
    ⟨ahead arena steps, arena, ahead arena steps - 1, fun _ => rfl⟩
  have split : answerRoot Tray.sink context repeating = step >>= fun steps =>
      if steps = 0 then pure false else writeText Tray.sink ".." >>= fun _ => pure true := by
    funext scene
    rw [answerRoot_eq, bind_apply]
    dsimp only [step, ahead]
    rcases (if repeating then scene.rootSteps else context.levels scene.arena) with _ | steps <;> rfl
  rw [split]
  refine apart.even.bind fun steps => ?_
  cases steps with
  | zero => exact even_pure false
  | succ steps => exact (even_writeText "..").bind fun _ => even_pure true

theorem even_answer (context : Context) (widget : Widget) (repeating : Bool) :
    Even (answer Tray.sink context widget repeating) := by
  by_cases once : widget.repeats = false
  · exact (plain_answer Tray.sink context once repeating).composed.even
  · cases widget with
    | files => exact even_answerFiles context repeating
    | pwd => exact even_answerPwd context repeating
    | root => exact even_answerRoot context repeating
    | _ => exact absurd rfl once

/-- An expansion into a tray goes on beside one into a tray without a limit until there is no more room. -/
theorem curtails_tray (context : Context) (cap : Nat) :
    Curtails (sceneHost Tray.sink context) (sceneHost Tray.sink context) (Scene.Level cap)
      (Scene.Over cap) where
  write bytes level := (even_writeBytes bytes).beside level
  call widget repeating level := (even_answer context widget repeating).beside level
  writeOn bytes spilled := (even_writeBytes bytes).alone spilled
  callOn widget repeating spilled := (even_answer context widget repeating).alone spilled

/-- What a tray without a limit holds already stays at the front. -/
theorem kept_held (context : Context) (front : ByteArray) :
    Kept Tray.sink context
      (fun scene => scene.out.room = none ∧ ∃ more, scene.out.held = front ++ more)
      (fun _ => False) where
  write := by
    rintro scene bytes ⟨roomy, more, held⟩
    unfold writeBytes
    by_cases none : bytes.isEmpty = true
    · rw [if_pos none]
      exact ⟨roomy, more, held⟩
    · simp only [if_neg none, Tray.sink, Tray.write_roomy roomy]
      exact ⟨roomy, more ++ bytes, by rw [held, ByteArray.append_assoc]⟩
  moves _ _ kept _ := kept
  rootSteps _ kept := kept

/-- A tray with room for so many bytes is left with as many of those that a tray without a limit would get,
or with all, and the expansion fails if and only if that is not all of them. What it reports up to there is
reported in the same order without the limit, and where nothing is lost, all is the same. -/
theorem expand_limited (context : Context) {fuel : Nat} {suppressed : Bool} {template after : Template}
    {scene later : Scene Tray} {result : Except TrayFull Ending} (roomy : scene.out.room = none)
    (ended : template.expand (sceneHost Tray.sink context) fuel suppressed scene =
      some (result, after, later)) :
    ∃ full ending, result = .ok ending ∧ later.out.held = scene.out.held ++ full ∧
      ∀ room, ∃ result' after' later',
        template.expand (sceneHost Tray.sink context) fuel suppressed
            { scene with out.room := some room } = some (result', after', later') ∧
          later'.out.held = scene.out.held ++ full.extract 0 (min room full.size) ∧
          (result' = .error .full ↔ room < full.size) ∧
          after'.diagnostics.toList <+: after.diagnostics.toList ∧
          (full.size ≤ room → result' = result ∧ after' = after ∧ later'.arena = later.arena ∧
            later'.rootSteps = later.rootSteps) := by
  obtain ⟨⟨ending, rfl⟩, _⟩ := expand_accepted (Tray.accepts scene.out roomy) ended
  obtain ⟨_, full, held⟩ := (kept_held context scene.out.held).expand
    ⟨roomy, .empty, ByteArray.append_empty.symm⟩ ended
  refine ⟨full, ending, rfl, held, fun room => ?_⟩
  have sides : Scene.Level (scene.out.held.size + room) scene { scene with out.room := some room } :=
    .beside scene.arena scene.rootSteps
      ⟨by rw [Nat.add_sub_cancel_left], roomy, Nat.le_add_right _ _⟩
  have size : later.out.held.size = scene.out.held.size + full.size := by
    rw [held, ByteArray.size_append]
  rcases expand_curtailed (curtails_tray context (scene.out.held.size + room)) sides ended with
    ⟨later', ended', @⟨arena, steps, tray, tray', level⟩⟩ | ⟨failure, stopped, later', ended', spilled, reported⟩
  · have fits : full.size ≤ room := by
      have within := level.within
      dsimp only at size
      omega
    refine ⟨_, _, _, ended', ?_, ?_, List.prefix_refl _, fun _ => ⟨rfl, rfl, rfl, rfl⟩⟩
    · rw [Nat.min_eq_right fits, ByteArray.extract_zero_size, ← held, level.limited]
    · exact ⟨nofun, fun lost => absurd fits (Nat.not_le.mpr lost)⟩
  · have lost : room < full.size := by
      have beyond := spilled.beyond
      omega
    refine ⟨_, _, _, ended', ?_, ?_, reported, fun fits => absurd fits (Nat.not_le.mpr lost)⟩
    · have all : scene.out.held.extract 0 (scene.out.held.size + room) = scene.out.held :=
        extract_of_size_le (Nat.le_add_right _ _)
      rw [spilled.held, held, ByteArray.extract_append, all, Nat.zero_sub, Nat.add_sub_cancel_left,
        Nat.min_eq_left (Nat.le_of_lt lost)]
    · cases failure
      exact ⟨fun _ => lost, fun _ => rfl⟩

/-- Room for two of four bytes. The name that is met behind them is not reported. -/
theorem expand_limited_halfway :
    let template := Template.ofSource "@(x)abc@(y)d"
    let host : Host TrayFull (Scene Tray) := sceneHost Tray.sink ⟨.stock, 0, none, none⟩
    ∃ result after later, template.expand host 20 false ⟨.empty, 0, .empty .empty none⟩ =
        some (result, after, later) ∧ later.out.held.data = "abcd".toUTF8.data ∧
      ∃ after' later', template.expand host 20 false ⟨.empty, 0, .empty .empty (some 2)⟩ =
          some (.error .full, after', later') ∧
        later'.out.held.data = "ab".toUTF8.data ∧
        after'.diagnostics.toList <+: after.diagnostics.toList := by
  intro template host
  have written : (template.expand host 20 false ⟨.empty, 0, .empty .empty none⟩).map
      (fun ended => ended.2.2.out.held.data) = some "abcd".toUTF8.data := by decide +kernel
  cases ended : template.expand host 20 false ⟨.empty, 0, .empty .empty none⟩ with
  | none =>
      rw [ended] at written
      cases written
  | some run =>
      obtain ⟨result, after, later⟩ := run
      rw [ended] at written
      have whole : later.out.held = "abcd".toUTF8 := ByteArray.ext (Option.some.inj written)
      obtain ⟨full, _, _, held, limited⟩ := expand_limited ⟨.stock, 0, none, none⟩ rfl ended
      obtain ⟨result', after', later', ended', held', lost, reported, _⟩ := limited 2
      have all : full = "abcd".toUTF8 := by
        rw [← whole, held]
        exact ByteArray.empty_append.symm
      rw [all] at lost held'
      obtain rfl := lost.mpr (by decide +kernel)
      refine ⟨result, after, later, rfl, congrArg ByteArray.data whole, after', later', ended', ?_, reported⟩
      rw [held']
      decide +kernel

end Template
end SiteIndex

import SiteIndex.Proofs.FileSystem.Tree
import SiteIndex.Proofs.Listing.Marks
import SiteIndex.Proofs.Output.Sink
import SiteIndex.Proofs.Template.Alongside
import SiteIndex.Template.Answer

/-!
What the widgets do to two scenes side by side. A widget writes, moves the cursor of one snapshot,
sets and uses up marks on the way to it, counts steps, and reads files; when each of these keeps two
scenes related, so does every answer of every widget, and the answers are the same.
-/

namespace SiteIndex

/-- A reader stays at the file that it reads. -/
theorem ReadAhead.location_takeLine {reader reader' : ReadAhead} {files : FileSystem}
    {line : ByteArray} (taken : reader.takeLine files = .ok (line, reader')) :
    reader'.location = reader.location := by
  unfold takeLine at taken
  dsimp only at taken
  split at taken
  · cases taken
    rfl
  · split at taken <;> cases taken
    rfl

end SiteIndex

namespace SiteIndex.Template

open SiteIndex.Listing

variable {ε σ α α' β β' : Type}

namespace Action

/-- Two actions that agree on scenes which `Before` relates. -/
def Aligned (Before : Scene σ → Scene σ → Prop) (After : α → α' → Scene σ → Scene σ → Prop)
    (Broken : Scene σ → Scene σ → Prop) (action : Action ε σ α) (action' : Action ε σ α') : Prop :=
  ∀ scene scene', Before scene scene' → Paired After Broken (action scene) (action' scene')

theorem bind_apply (action : Action ε σ α) (next : α → Action ε σ β) (scene : Scene σ) :
    (action >>= next) scene =
      match action scene with
      | (.ok value, scene) => next value scene
      | (.error failure, scene) => (.error failure, scene) := by
  change (ExceptT.bindCont next (action scene).1) (action scene).2 = _
  rcases action scene with ⟨_ | _, _⟩ <;> rfl

variable {Before Broken : Scene σ → Scene σ → Prop}
  {Between : α → α' → Scene σ → Scene σ → Prop} {After : β → β' → Scene σ → Scene σ → Prop}

theorem Aligned.bind {action : Action ε σ α} {action' : Action ε σ α'}
    {next : α → Action ε σ β} {next' : α' → Action ε σ β'}
    (first : Aligned Before Between Broken action action')
    (second : ∀ value value', Aligned (Between value value') After Broken (next value)
      (next' value')) :
    Aligned Before After Broken (action >>= next) (action' >>= next') := by
  intro scene scene' before
  rw [bind_apply, bind_apply]
  have paired := first scene scene' before
  revert paired
  generalize action scene = answer
  generalize action' scene' = answer'
  intro paired
  cases paired with
  | ok whole => exact second _ _ _ _ whole
  | error failure broken => exact .error failure broken

theorem Aligned.given {Before' : Scene σ → Scene σ → Prop} {action : Action ε σ β}
    {action' : Action ε σ β'} (aligned : Aligned Before After Broken action action')
    (stronger : ∀ {scene scene'}, Before' scene scene' → Before scene scene') :
    Aligned Before' After Broken action action' :=
  fun scene scene' before => aligned scene scene' (stronger before)

theorem files_apply (sink : Sink ε σ) (next : FileSystem → Action ε σ α) (scene : Scene σ) :
    (files sink >>= next) scene = next (sink.files scene.out) scene := rfl

theorem snapshot_apply (context : Context) (next : Option Snapshot → Action ε σ α) (scene : Scene σ) :
    (snapshot? context >>= next) scene = next (context.directory.bind scene.arena.get?) scene := rfl

theorem get_apply (next : Scene σ → Action ε σ α) (scene : Scene σ) :
    (get >>= next) scene = next scene scene := rfl

theorem set_apply (next : PUnit → Action ε σ α) (later scene : Scene σ) :
    (set later >>= next) scene = next ⟨⟩ later := rfl

theorem modify_apply (change : Scene σ → Scene σ) (next : PUnit → Action ε σ α)
    (scene : Scene σ) : (modify change >>= next) scene = next ⟨⟩ (change scene) := rfl

theorem Aligned.pure {value : β} {value' : β'}
    (whole : ∀ {scene scene'}, Before scene scene' → After value value' scene scene') :
    Aligned (ε := ε) Before After Broken (Pure.pure value) (Pure.pure value') :=
  fun _ _ before => .ok (whole before)

theorem discard_eq (action : Action ε σ α) :
    Functor.discard action = action >>= fun _ => Pure.pure () := by
  unfold Functor.discard
  rw [← map_eq_pure_bind, map_const]
  rfl

theorem Aligned.discard {Whole : Scene σ → Scene σ → Prop} {action : Action ε σ α}
    {action' : Action ε σ α'} (aligned : Aligned Before Between Broken action action')
    (weaker : ∀ {value value' scene scene'}, Between value value' scene scene' →
      Whole scene scene') :
    Aligned Before (Same Whole) Broken (Functor.discard action) (Functor.discard action') := by
  rw [discard_eq, discard_eq]
  exact aligned.bind fun _ _ => .pure fun between => ⟨rfl, weaker between⟩

end Action

theorem selected?_setMark (snapshot : Snapshot) (mark : Option Nat) :
    ({ snapshot with mark } : Snapshot).selected? = snapshot.selected? := rfl

/-- The paths that a widget may look at for a snapshot. -/
inductive Consults (conventions : Conventions) (snapshot : Snapshot) : String → Prop
  | content : Consults conventions snapshot (Path.join snapshot.path conventions.directoryContent)
  | summary :
      Consults conventions snapshot (Path.join snapshot.path conventions.directoryDescription)
  | description (entry : Entry) (listed : snapshot.selected? = some entry) :
      Consults conventions snapshot
        (Sidecar.descriptionPath conventions snapshot.path entry.name entry.isDirectory)
  | link (entry : Entry) (listed : snapshot.selected? = some entry)
      (named : Sidecar.isLink conventions entry.name = true) :
      Consults conventions snapshot (Path.join snapshot.path entry.name)
  | icon (entry : Entry) (listed : snapshot.selected? = some entry) :
      Consults conventions snapshot
        (Path.join snapshot.path (Sidecar.iconName conventions entry.name))

/-- The paths that a widget may look at in an expansion. -/
def Context.Consults (context : Context) (arena : Arena) (path : String) : Prop :=
  (∃ snapshot, context.directory.bind arena.get? = some snapshot ∧
      Template.Consults context.conventions snapshot path) ∨
    ∃ news, context.news = some news ∧ path = news.target

/-- What a widget does to scenes one thing at a time keeps two scenes related, which then show it the
same: the snapshot but for its mark, and the files that it may look at. `Shown` is where these lie.
Marks are alike only once the way has been marked. -/
structure Twinned (sink : Sink ε σ) (context : Context) (Shown : Location → Prop)
    (Whole : (onWay : Bool) → Scene σ → Scene σ → Prop) (Broken : Scene σ → Scene σ → Prop) :
    Prop where
  forget : ∀ {scene scene'}, Whole true scene scene' → Whole false scene scene'
  write : ∀ {onWay scene scene'} bytes, Whole onWay scene scene' →
    Paired (Same (Whole onWay)) Broken (Action.writeBytes sink bytes scene)
      (Action.writeBytes sink bytes scene')
  snapshot : ∀ {onWay scene scene'}, Whole onWay scene scene' →
    (context.directory.bind scene.arena.get?).map Snapshot.unmarked =
      (context.directory.bind scene'.arena.get?).map Snapshot.unmarked
  levels : ∀ {onWay scene scene'}, Whole onWay scene scene' →
    context.directory.map scene.arena.levelsBelowRoot =
      context.directory.map scene'.arena.levelsBelowRoot
  found : ∀ {onWay scene scene' path}, Whole onWay scene scene' →
    context.Consults scene.arena path →
      (sink.files scene.out).find path = (sink.files scene'.out).find path ∧
        ∀ location node, (sink.files scene.out).find path = .ok (location, node) → Shown location
  content : ∀ {onWay scene scene' location}, Whole onWay scene scene' → Shown location →
    (sink.files scene.out).content location = (sink.files scene'.out).content location
  advance : ∀ {onWay scene scene'} id, context.directory = some id → Whole onWay scene scene' →
    Whole onWay { scene with arena := (scene.arena.advance id).2 }
      { scene' with arena := (scene'.arena.advance id).2 }
  markWay : ∀ {onWay scene scene'} id, context.directory = some id → Whole onWay scene scene' →
    Whole true { scene with arena := scene.arena.markWay id }
      { scene' with arena := scene'.arena.markWay id }
  nextSegment : ∀ {scene scene'} id, context.directory = some id → Whole true scene scene' →
    (scene.arena.nextSegment id).1 = (scene'.arena.nextSegment id).1 ∧
      Whole true { scene with arena := (scene.arena.nextSegment id).2 }
        { scene' with arena := (scene'.arena.nextSegment id).2 }
  rootSteps : ∀ {onWay scene scene'}, Whole onWay scene scene' →
    scene.rootSteps = scene'.rootSteps ∧
      ∀ steps, Whole onWay { scene with rootSteps := steps } { scene' with rootSteps := steps }

namespace Twinned

variable {sink : Sink ε σ} {context : Context} {Shown : Location → Prop}
  {Whole : Bool → Scene σ → Scene σ → Prop} {Broken : Scene σ → Scene σ → Prop}
  (twinned : Twinned sink context Shown Whole Broken)
include twinned

theorem weaken (onWay : Bool) {scene scene' : Scene σ} (whole : Whole true scene scene') :
    Whole onWay scene scene' := by
  cases onWay with
  | true => exact whole
  | false => exact twinned.forget whole

theorem writeBytes (onWay : Bool) (bytes : ByteArray) :
    Action.Aligned (Whole onWay) (Same (Whole onWay)) Broken (Action.writeBytes sink bytes)
      (Action.writeBytes sink bytes) :=
  fun _ _ whole => twinned.write bytes whole

theorem writeText (onWay : Bool) (text : String) :
    Action.Aligned (Whole onWay) (Same (Whole onWay)) Broken (Action.writeText sink text)
      (Action.writeText sink text) :=
  twinned.writeBytes onWay text.toUTF8

theorem writePieces (onWay : Bool) (pieces : List String) :
    Action.Aligned (Whole onWay) (Same (Whole onWay)) Broken (Action.writePieces sink pieces)
      (Action.writePieces sink pieces) := by
  induction pieces with
  | nil => exact .pure fun whole => ⟨rfl, whole⟩
  | cons piece rest ih =>
      exact (twinned.writeText onWay piece).bind fun _ _ _ _ same => ih _ _ same.2

/-- Two widgets that look at the snapshot see the same but for the mark. -/
theorem onSnapshot {onWay : Bool} {After : α → α → Scene σ → Scene σ → Prop}
    {next : Option Snapshot → Action ε σ α}
    (none : Action.Aligned (Whole onWay) After Broken (next none) (next none))
    (some : ∀ snapshot mark, Action.Aligned
      (fun scene scene' => Whole onWay scene scene' ∧
        context.directory.bind scene.arena.get? = some snapshot)
      After Broken (next (some snapshot)) (next (some { snapshot with mark }))) :
    Action.Aligned (Whole onWay) After Broken (Action.snapshot? context >>= next)
      (Action.snapshot? context >>= next) := by
  intro scene scene' whole
  have same := twinned.snapshot whole
  rw [Action.bind_apply, Action.bind_apply]
  change Paired After Broken (next (context.directory.bind scene.arena.get?) scene)
    (next (context.directory.bind scene'.arena.get?) scene')
  revert same
  generalize seen : context.directory.bind scene.arena.get? = snapshot
  generalize context.directory.bind scene'.arena.get? = snapshot'
  intro same
  cases snapshot with
  | none =>
      cases snapshot' with
      | none => exact none scene scene' whole
      | some _ => cases same
  | some snapshot =>
      cases snapshot' with
      | none => cases same
      | some snapshot' =>
          have marked : snapshot' = { snapshot with mark := snapshot'.mark } := by
            cases snapshot
            cases snapshot'
            simp only [Snapshot.unmarked, Option.map_some, Option.some.injEq, Snapshot.mk.injEq] at same
            simp [same]
          rw [marked]
          exact some snapshot _ scene scene' ⟨whole, seen⟩

theorem levelsBelowRoot (onWay : Bool) :
    Action.Aligned (ε := ε) (Whole onWay) (Same (Whole onWay)) Broken
      (Action.levelsBelowRoot context) (Action.levelsBelowRoot context) :=
  fun _ _ whole => .ok ⟨congrArg (Option.getD · 0) (twinned.levels whole), whole⟩

theorem copyFrom (onWay : Bool) (lines : Nat) (reader : ReadAhead)
    (shown : Shown reader.location) :
    Action.Aligned (Whole onWay) (Same (Whole onWay)) Broken (copyFrom sink lines reader)
      (copyFrom sink lines reader) := by
  induction lines generalizing reader with
  | zero => exact .pure fun whole => ⟨rfl, whole⟩
  | succ lines ih =>
      intro scene scene' whole
      have alike : reader.takeLine (sink.files scene.out) =
          reader.takeLine (sink.files scene'.out) := by
        unfold ReadAhead.takeLine
        rw [twinned.content whole shown]
      unfold Template.copyFrom
      rw [Action.files_apply, Action.files_apply, ← alike]
      cases taken : reader.takeLine (sink.files scene.out) with
      | error _ => exact .ok ⟨rfl, whole⟩
      | ok next =>
          obtain ⟨line, reader'⟩ := next
          have here := ReadAhead.location_takeLine taken
          dsimp only
          split
          · exact .ok ⟨rfl, whole⟩
          · refine Action.Aligned.bind (twinned.writeBytes onWay line) (fun _ _ => ?_) _ _ whole
            exact (ih reader' (here ▸ shown)).given And.right

/-- Where nothing could be opened, nothing has changed. -/
theorem copyLines (onWay : Bool) (path : String) {Before : Scene σ → Scene σ → Prop}
    (before : ∀ {scene scene'}, Before scene scene' →
      Whole onWay scene scene' ∧ context.Consults scene.arena path) :
    Action.Aligned Before (fun opened opened' scene scene' => opened = opened' ∧
        Whole onWay scene scene' ∧ (opened = false → Before scene scene')) Broken
      (copyLines sink context path) (copyLines sink context path) := by
  intro scene scene' related
  obtain ⟨whole, consults⟩ := before related
  obtain ⟨alike, shown⟩ := twinned.found whole consults
  unfold Template.copyLines
  rw [Action.files_apply, Action.files_apply, ← alike]
  cases found : (sink.files scene.out).find path with
  | error _ => exact .ok ⟨rfl, whole, fun _ => related⟩
  | ok target =>
      obtain ⟨location, node⟩ := target
      have copied := twinned.copyFrom onWay context.conventions.maxLines (.ofLocation location)
        (shown location node found)
      exact copied.bind (fun _ _ => .pure fun same => ⟨rfl, same.2, nofun⟩) _ _ whole

omit twinned in
theorem done (onWay : Bool) :
    Action.Aligned (ε := ε) (Whole onWay) (Same (Whole onWay)) Broken (pure false) (pure false) :=
  .pure fun whole => ⟨rfl, whole⟩

omit twinned in
/-- A widget that has done something and asks for no body. -/
theorem thenDone {onWay : Bool} {Before : Scene σ → Scene σ → Prop} {action : Action ε σ α}
    (aligned : Action.Aligned Before (Same (Whole onWay)) Broken action action) :
    Action.Aligned Before (Same (Whole onWay)) Broken (action >>= fun _ => pure false)
      (action >>= fun _ => pure false) :=
  aligned.bind fun _ _ => (done onWay).given And.right

theorem answerContent (onWay : Bool) :
    Action.Aligned (Whole onWay) (Same (Whole onWay)) Broken (answerContent sink context)
      (answerContent sink context) := by
  refine twinned.onSnapshot (done onWay) fun snapshot mark => ?_
  dsimp only
  refine (twinned.copyLines onWay _ fun before =>
    ⟨before.1, .inl ⟨snapshot, before.2, .content⟩⟩).bind fun opened _ => ?_
  rintro scene scene' ⟨rfl, whole, unchanged⟩
  cases opened with
  | true => exact .ok ⟨rfl, whole⟩
  | false =>
      have second := twinned.copyLines onWay
        (Path.join snapshot.path context.conventions.directoryDescription)
        fun {scene scene'} (before : Whole onWay scene scene' ∧
            context.directory.bind scene.arena.get? = some snapshot) =>
          ⟨before.1, .inl ⟨snapshot, before.2, .summary⟩⟩
      simp only [Bool.false_eq_true, if_false]
      exact thenDone (second.discard fun copied => copied.2.1) _ _ (unchanged rfl)

theorem answerDate (onWay : Bool) :
    Action.Aligned (Whole onWay) (Same (Whole onWay)) Broken (answerDate sink context)
      (answerDate sink context) := by
  unfold Template.answerDate
  split
  · exact thenDone (twinned.writePieces onWay _)
  · exact done onWay

theorem answerFileAlt (onWay : Bool) :
    Action.Aligned (Whole onWay) (Same (Whole onWay)) Broken (answerFileAlt sink context)
      (answerFileAlt sink context) :=
  twinned.onSnapshot (done onWay) fun _ _ =>
    Action.Aligned.given (thenDone (twinned.writeText onWay _)) And.left

theorem answerFileDesc (onWay : Bool) :
    Action.Aligned (Whole onWay) (Same (Whole onWay)) Broken (answerFileDesc sink context)
      (answerFileDesc sink context) := by
  refine twinned.onSnapshot (done onWay) fun snapshot mark => ?_
  dsimp only
  rw [selected?_setMark snapshot mark]
  cases selected : snapshot.selected? with
  | none => exact (done onWay).given And.left
  | some entry =>
      exact thenDone ((twinned.copyLines onWay _ fun before =>
        ⟨before.1, .inl ⟨snapshot, before.2, .description entry selected⟩⟩).discard
          fun copied => copied.2.1)

theorem answerFileHref (onWay : Bool) :
    Action.Aligned (Whole onWay) (Same (Whole onWay)) Broken (answerFileHref sink context)
      (answerFileHref sink context) := by
  refine twinned.onSnapshot (done onWay) fun snapshot mark => ?_
  dsimp only
  rw [selected?_setMark snapshot mark]
  cases selected : snapshot.selected? with
  | none => exact (done onWay).given And.left
  | some entry =>
      intro scene scene' before
      have written (target : Option String) := thenDone (twinned.writeText onWay
        (target.getD entry.name)) scene scene' before.1
      dsimp only
      rw [Action.files_apply, Action.files_apply]
      by_cases link : Sidecar.isLink context.conventions entry.name = true
      · obtain ⟨alike, shown⟩ := twinned.found before.1
          (.inl ⟨snapshot, before.2, .link entry selected link⟩)
        have target : linkTarget? (sink.files scene.out) (Path.join snapshot.path entry.name) =
            linkTarget? (sink.files scene'.out) (Path.join snapshot.path entry.name) := by
          unfold linkTarget?
          rw [FileSystem.read_congr alike fun location node found =>
            twinned.content before.1 (shown location node found)]
        simp only [if_pos link]
        rw [← target]
        exact written _
      · simp only [if_neg link]
        exact written none

theorem answerFileIcon (onWay : Bool) :
    Action.Aligned (Whole onWay) (Same (Whole onWay)) Broken (answerFileIcon sink context)
      (answerFileIcon sink context) := by
  refine twinned.onSnapshot (done onWay) fun snapshot mark => ?_
  dsimp only
  rw [selected?_setMark snapshot mark]
  cases selected : snapshot.selected? with
  | none => exact (done onWay).given And.left
  | some entry =>
      intro scene scene' before
      obtain ⟨alike, _⟩ := twinned.found before.1
        (.inl ⟨snapshot, before.2, .icon entry selected⟩)
      have own : (sink.files scene.out).isFile
            (Path.join snapshot.path (Sidecar.iconName context.conventions entry.name)) =
          (sink.files scene'.out).isFile
            (Path.join snapshot.path (Sidecar.iconName context.conventions entry.name)) := by
        unfold FileSystem.isFile
        rw [alike]
      dsimp only
      rw [Action.files_apply, Action.files_apply, ← own]
      split
      · exact thenDone (twinned.writeText onWay _) scene scene' before.1
      · refine Action.Aligned.bind (twinned.levelsBelowRoot onWay) (fun levels _ => ?_) _ _ before.1
        rintro scene scene' ⟨rfl, whole⟩
        refine Action.Aligned.bind (twinned.writePieces onWay _) (fun _ _ => ?_) _ _ whole
        exact (thenDone (twinned.writeText onWay _)).given And.right

theorem answerFileName (onWay : Bool) :
    Action.Aligned (Whole onWay) (Same (Whole onWay)) Broken (answerFileName sink context)
      (answerFileName sink context) :=
  twinned.onSnapshot (done onWay) fun _ _ =>
    Action.Aligned.given (thenDone (twinned.writeText onWay _)) And.left

theorem answerFiles (onWay repeating : Bool) :
    Action.Aligned (ε := ε) (Whole onWay) (Same (Whole onWay)) Broken
      (answerFiles context repeating) (answerFiles context repeating) := by
  intro scene scene' whole
  unfold Template.answerFiles
  rw [Action.get_apply, Action.get_apply]
  have seen := twinned.snapshot whole
  cases directory : context.directory with
  | none => exact .ok ⟨rfl, whole⟩
  | some id =>
      rw [directory, Option.bind_some, Option.bind_some] at seen
      have moved := twinned.advance id directory whole
      dsimp only
      unfold Arena.advance at moved ⊢
      revert seen moved
      cases scene.arena.get? id with
      | none =>
          cases scene'.arena.get? id with
          | none => exact fun _ _ => .ok ⟨rfl, whole⟩
          | some _ => nofun
      | some snapshot =>
          cases scene'.arena.get? id with
          | none => nofun
          | some snapshot' =>
              intro seen moved
              have cursor : snapshot'.cursor = snapshot.cursor :=
                (congrArg Snapshot.cursor (Option.some.inj seen)).symm
              have selects : snapshot'.advance.1 = snapshot.advance.1 :=
                (congrArg (·.advance.1) (Option.some.inj seen)).symm
              dsimp only
              rw [cursor, selects]
              split
              · exact .ok ⟨rfl, whole⟩
              · exact .ok ⟨rfl, moved⟩

theorem answerFileSize (onWay : Bool) :
    Action.Aligned (Whole onWay) (Same (Whole onWay)) Broken (answerFileSize sink context)
      (answerFileSize sink context) := by
  refine twinned.onSnapshot (done onWay) fun snapshot mark => Action.Aligned.given ?_ And.left
  dsimp only
  rw [selected?_setMark snapshot mark]
  cases snapshot.selected? with
  | none => exact done onWay
  | some entry =>
      dsimp only
      split
      · exact done onWay
      · exact thenDone (twinned.writePieces onWay _)

theorem answerNewsName (onWay : Bool) :
    Action.Aligned (Whole onWay) (Same (Whole onWay)) Broken (answerNewsName sink context)
      (answerNewsName sink context) := by
  unfold Template.answerNewsName
  split
  · exact thenDone (twinned.writeText onWay _)
  · exact done onWay

theorem answerNews (onWay : Bool) :
    Action.Aligned (Whole onWay) (Same (Whole onWay)) Broken (answerNews sink context)
      (answerNews sink context) := by
  unfold Template.answerNews
  split
  · next news told =>
      exact thenDone ((twinned.copyLines onWay news.target fun whole =>
        ⟨whole, .inr ⟨news, told, rfl⟩⟩).discard fun copied => copied.2.1)
  · exact done onWay

/-- Marking the way makes marks alike, and so they stay while it is followed. -/
theorem answerPwd (onWay repeating : Bool) (begun : repeating = true → onWay = true) :
    Action.Aligned (Whole onWay) (fun again => Same (Whole (onWay || again)) again) Broken
      (answerPwd sink context repeating) (answerPwd sink context repeating) := by
  intro scene scene' whole
  unfold Template.answerPwd
  cases directory : context.directory with
  | none => exact .ok ⟨rfl, by rwa [Bool.or_false]⟩
  | some id =>
      have marked : Whole true
          { scene with arena := if repeating then scene.arena else scene.arena.markWay id }
          { scene' with arena := if repeating then scene'.arena else scene'.arena.markWay id } := by
        cases repeating with
        | true => rwa [begun rfl] at whole
        | false => exact twinned.markWay id directory whole
      obtain ⟨alike, stepped⟩ := twinned.nextSegment id directory marked
      dsimp only at alike ⊢
      rw [Action.get_apply, Action.get_apply, Action.set_apply, Action.set_apply, ← alike]
      generalize ((if repeating then scene.arena else scene.arena.markWay id).nextSegment id).1 =
        segment
      cases segment with
      | none => exact .ok ⟨rfl, twinned.weaken (onWay || false) stepped⟩
      | some name =>
          refine Action.Aligned.bind (twinned.writeText true name) (fun _ _ => ?_) _ _ stepped
          exact .pure fun same => ⟨rfl, by rw [Bool.or_true]; exact same.2⟩

/-- One step up of those that are left. -/
theorem stepUp (onWay : Bool) :
    Action.Aligned (Whole onWay) (Same (Whole onWay)) Broken
      (do
        match (← get).rootSteps with
        | 0 => return false
        | steps + 1 =>
            modify fun scene => { scene with rootSteps := steps }
            Action.writeText sink ".."
            return true)
      (do
        match (← get).rootSteps with
        | 0 => return false
        | steps + 1 =>
            modify fun scene => { scene with rootSteps := steps }
            Action.writeText sink ".."
            return true) := by
  intro scene scene' whole
  obtain ⟨same, changed⟩ := twinned.rootSteps whole
  rw [Action.get_apply, Action.get_apply, ← same]
  cases scene.rootSteps with
  | zero => exact .ok ⟨rfl, whole⟩
  | succ steps =>
      dsimp only
      rw [Action.modify_apply, Action.modify_apply]
      exact (twinned.writeText onWay "..").bind
        (fun _ _ => .pure fun same => ⟨rfl, same.2⟩) _ _ (changed steps)

theorem answerRoot (onWay repeating : Bool) :
    Action.Aligned (Whole onWay) (Same (Whole onWay)) Broken (answerRoot sink context repeating)
      (answerRoot sink context repeating) := by
  have stepped := twinned.stepUp onWay
  unfold Template.answerRoot
  cases repeating with
  | true => exact stepped
  | false =>
      refine (twinned.levelsBelowRoot onWay).bind fun levels _ => ?_
      rintro scene scene' ⟨rfl, whole⟩
      rw [Action.modify_apply, Action.modify_apply]
      exact stepped _ _ ((twinned.rootSteps whole).2 levels)

theorem answerNow (onWay : Bool) :
    Action.Aligned (Whole onWay) (Same (Whole onWay)) Broken (answerNow sink context)
      (answerNow sink context) :=
  thenDone (twinned.writeText onWay _)

theorem answerTitle (onWay : Bool) :
    Action.Aligned (Whole onWay) (Same (Whole onWay)) Broken (answerTitle sink context)
      (answerTitle sink context) := by
  unfold Template.answerTitle
  split
  · exact thenDone (twinned.writeText onWay _)
  · exact done onWay

theorem answer_aligned (onWay repeating : Bool) {widget : Widget} (other : widget ≠ .pwd) :
    Action.Aligned (Whole onWay) (Same (Whole onWay)) Broken (answer sink context widget repeating)
      (answer sink context widget repeating) := by
  cases widget with
  | content => exact twinned.answerContent onWay
  | date => exact twinned.answerDate onWay
  | fileAlt => exact twinned.answerFileAlt onWay
  | fileDesc => exact twinned.answerFileDesc onWay
  | fileHref => exact twinned.answerFileHref onWay
  | fileIcon => exact twinned.answerFileIcon onWay
  | fileName => exact twinned.answerFileName onWay
  | files => exact twinned.answerFiles onWay repeating
  | fileSize => exact twinned.answerFileSize onWay
  | news => exact twinned.answerNews onWay
  | newsName => exact twinned.answerNewsName onWay
  | now => exact twinned.answerNow onWay
  | pwd => exact absurd rfl other
  | root => exact twinned.answerRoot onWay repeating
  | title => exact twinned.answerTitle onWay

/-- Scenes that are kept alike let two expansions run side by side. -/
theorem alongside :
    Alongside (sceneHost sink context) (sceneHost sink context) Whole Broken where
  forget := twinned.forget
  write bytes whole := twinned.write bytes whole
  call := by
    intro onWay scene scene' widget repeating begun whole
    by_cases way : widget = .pwd
    · subst way
      simp only [decide_true, Bool.and_true]
      exact twinned.answerPwd onWay repeating (begun · rfl) scene scene' whole
    · simp only [way, decide_false, Bool.and_false, Bool.or_false]
      exact twinned.answer_aligned onWay repeating way scene scene' whole

end Twinned

/-- What a widget may do to the snapshots. -/
inductive Moves (id : Nat) (arena : Arena) : Arena → Prop
  | advance : Moves id arena (arena.advance id).2
  | markWay : Moves id arena (arena.markWay id)
  | nextSegment : Moves id arena (arena.nextSegment id).2

/-- What all that a widget does to a scene keeps; after a failed write, `Broken` is left. -/
structure Kept (sink : Sink ε σ) (context : Context) (Whole Broken : Scene σ → Prop) : Prop where
  write : ∀ {scene} bytes, Whole scene →
    match Action.writeBytes sink bytes scene with
    | (.ok _, scene) => Whole scene
    | (.error _, scene) => Broken scene
  moves : ∀ {scene arena} id, context.directory = some id → Whole scene →
    Moves id scene.arena arena → Whole { scene with arena }
  rootSteps : ∀ {scene} steps, Whole scene → Whole { scene with rootSteps := steps }

namespace Kept

variable {sink : Sink ε σ} {context : Context} {Whole Broken : Scene σ → Prop}

/-- A scene is kept as itself. -/
theorem twinned (kept : Kept sink context Whole Broken) :
    Twinned sink context (fun _ => True) (fun _ scene scene' => scene = scene' ∧ Whole scene)
      (fun scene scene' => scene = scene' ∧ Broken scene) where
  forget := id
  write := by
    rintro _ scene _ bytes ⟨rfl, whole⟩
    have written := kept.write bytes whole
    revert written
    rcases Action.writeBytes sink bytes scene with ⟨failure | _, later⟩
    · exact fun broken => .error failure ⟨rfl, broken⟩
    · exact fun whole => .ok ⟨rfl, rfl, whole⟩
  snapshot := by
    rintro _ scene _ ⟨rfl, _⟩
    rfl
  levels := by
    rintro _ scene _ ⟨rfl, _⟩
    rfl
  found := by
    rintro _ scene _ path ⟨rfl, _⟩ _
    exact ⟨rfl, fun _ _ _ => trivial⟩
  content := by
    rintro _ scene _ location ⟨rfl, _⟩ _
    rfl
  advance := by
    rintro _ scene _ id directory ⟨rfl, whole⟩
    exact ⟨rfl, kept.moves id directory whole .advance⟩
  markWay := by
    rintro _ scene _ id directory ⟨rfl, whole⟩
    exact ⟨rfl, kept.moves id directory whole .markWay⟩
  nextSegment := by
    rintro scene _ id directory ⟨rfl, whole⟩
    exact ⟨rfl, rfl, kept.moves id directory whole .nextSegment⟩
  rootSteps := by
    rintro _ scene _ ⟨rfl, whole⟩
    exact ⟨rfl, fun steps => ⟨rfl, kept.rootSteps steps whole⟩⟩

/-- What all that a widget does keeps, an expansion keeps. -/
theorem expand (kept : Kept sink context Whole Broken) {fuel : Nat} {suppressed : Bool}
    {template after : Template} {scene later : Scene σ} {result : Except ε Ending}
    (whole : Whole scene)
    (ended : template.expand (sceneHost sink context) fuel suppressed scene =
      some (result, after, later)) :
    match result with
    | .ok _ => Whole later
    | .error _ => Broken later := by
  obtain ⟨_, _, paired⟩ := expand_paired kept.twinned.alongside ⟨rfl, whole⟩ ended
  cases paired with
  | ok same => exact same.2.2
  | error failure broken => exact broken.2

end Kept

/-- What an expansion does to a sink that takes everything, no step of it fails. -/
theorem kept_accepts (sink : Sink ε σ) (context : Context) :
    Kept sink context (fun scene => sink.Accepts scene.out) (fun _ => False) where
  write := by
    intro scene bytes accepts
    unfold Action.writeBytes
    obtain ⟨out, written, still⟩ := accepts.write bytes
    by_cases none : bytes.isEmpty = true
    · rw [if_pos none]
      exact accepts
    · rw [if_neg none, written]
      exact still
  moves _ _ accepts _ := accepts
  rootSteps _ accepts := accepts

/-- An expansion into a sink that takes everything does not fail. -/
theorem expand_accepted {sink : Sink ε σ} {context : Context} {fuel : Nat} {suppressed : Bool}
    {template after : Template} {scene later : Scene σ} {result : Except ε Ending}
    (accepts : sink.Accepts scene.out)
    (ended : template.expand (sceneHost sink context) fuel suppressed scene =
      some (result, after, later)) :
    (∃ ending, result = .ok ending) ∧ sink.Accepts later.out := by
  have kept := (kept_accepts sink context).expand accepts ended
  cases result with
  | ok ending => exact ⟨⟨ending, rfl⟩, kept⟩
  | error _ => exact kept.elim

end SiteIndex.Template

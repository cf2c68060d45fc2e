import SiteIndex.Proofs.Listing.Histories
import SiteIndex.Proofs.Template.Quiet

/-!
Marks that are left over. Expansions in arenas that differ in marks alone come to the same, and `pwd` never
writes anything but the names on the way to its directory: it marks the way before it looks at any mark, and
all that it reads later it has written itself.
-/

namespace SiteIndex

/-- The sink for these texts. At any other it fails. -/
def Sink.confined {ε σ : Type} (sink : Sink ε σ) (texts : List String) (stop : ε) : Sink ε σ where
  write bytes out :=
    if bytes.data ∈ texts.map (·.toUTF8.data) then sink.write bytes out else (.error stop, out)
  files := sink.files

namespace Listing.Arena

/-- A walk down to the snapshot has some of these names behind it and the others ahead, if the snapshot is
there. -/
def Midway (arena : Arena) (id : Nat) (names : List String) : Prop :=
  arena.get? id = none ∨ ∃ ahead, ahead <:+ names ∧ arena.OnWay id ahead

section
variable {arena arena' : Arena} {id : Nat} {names : List String}

theorem NamesTo.midway_markWay (namesTo : arena.NamesTo id names) :
    (arena.markWay id).Midway id names := by
  cases namesTo with
  | present leads => exact .inr ⟨names, List.suffix_refl names, leads.onWay_markWay⟩
  | absent gone => exact .inl ((markWay_of_absent gone).symm ▸ gone)

theorem Midway.of_rungs (midway : arena.Midway id names) (rungs : arena'.rungs = arena.rungs)
    (marks : arena'.markOf = arena.markOf) : arena'.Midway id names := by
  rcases midway with gone | ⟨ahead, behind, onWay⟩
  · exact .inl (get?_none_of_rungs rungs gone)
  · exact .inr ⟨ahead, behind, onWay.of_rungs rungs marks⟩

/-- A step from somewhere on the way tells one of the names on it, or nothing. -/
theorem Midway.nextSegment (midway : arena.Midway id names) :
    (∀ name, (arena.nextSegment id).1 = some name → name ∈ names) ∧
      (arena.nextSegment id).2.Midway id names := by
  rcases midway with gone | ⟨ahead, behind, onWay⟩
  · rw [nextSegment_of_absent gone]
    exact ⟨nofun, .inl gone⟩
  · cases ahead with
    | nil =>
        rw [onWay.nextSegment_nil]
        exact ⟨nofun, .inr ⟨[], behind, onWay⟩⟩
    | cons name ahead =>
        obtain ⟨later, next, onward⟩ := onWay.nextSegment_cons
        rw [next]
        refine ⟨?_, .inr ⟨ahead, (List.suffix_cons name ahead).trans behind, onward⟩⟩
        rintro _ ⟨⟩
        exact behind.subset List.mem_cons_self

end
end Listing.Arena

namespace Template

open SiteIndex.Listing

variable {ε σ : Type} {sink : Sink ε σ} {context : Context}

/-- Scenes that differ in marks alone, and on the way to the directory in none once it has been marked. -/
structure Scene.MarkedApart (context : Context) (onWay : Bool) (scene scene' : Scene σ) : Prop where
  accordant : Arena.Accordant (Arena.AlongWay context.directory onWay scene.arena) scene.arena scene'.arena
  rootSteps : scene.rootSteps = scene'.rootSteps
  out : scene.out = scene'.out

namespace Scene.MarkedApart

variable {onWay : Bool} {scene scene' : Scene σ}

theorem of_unmarked {arena : Arena} (same : arena.unmarked = scene.arena.unmarked) :
    MarkedApart context false scene { scene with arena } :=
  ⟨⟨same.symm, nofun⟩, rfl, rfl⟩

theorem forget (apart : MarkedApart context onWay scene scene') :
    MarkedApart context false scene scene' :=
  { apart with accordant := ⟨apart.accordant.unmarked, nofun⟩ }

/-- The second scene is the first with another arena. -/
theorem eq_withArena (apart : MarkedApart context onWay scene scene') :
    scene' = { scene with arena := scene'.arena } := by
  obtain ⟨arena, steps, out⟩ := scene
  obtain ⟨arena', steps', out'⟩ := scene'
  obtain ⟨_, rfl, rfl⟩ := apart
  rfl

theorem write (apart : MarkedApart context onWay scene scene') (sink : Sink ε σ) (bytes : ByteArray) :
    Paired (Same (MarkedApart context onWay)) (MarkedApart context false)
      (Action.writeBytes sink bytes scene) (Action.writeBytes sink bytes scene') := by
  unfold Action.writeBytes
  rw [← apart.out]
  split
  · exact .ok ⟨rfl, apart⟩
  · rcases sink.write bytes scene.out with ⟨failure | _, out⟩
    · exact .error failure ⟨apart.forget.accordant, apart.rootSteps, rfl⟩
    · exact .ok ⟨rfl, apart.accordant, apart.rootSteps, rfl⟩

end Scene.MarkedApart

/-- No widget shows how such scenes differ. -/
theorem twinned_markedApart (sink : Sink ε σ) (context : Context) :
    Twinned sink context (fun _ => True) (Scene.MarkedApart context)
      (Scene.MarkedApart context false) where
  forget apart := apart.forget
  write bytes apart := apart.write sink bytes
  snapshot apart := apart.accordant.seen context.directory
  levels apart := apart.accordant.levels context.directory
  found := by
    intro onWay scene scene' path apart _
    rw [apart.out]
    exact ⟨rfl, fun _ _ _ => trivial⟩
  content := by
    intro onWay scene scene' location apart _
    rw [apart.out]
  advance id _ apart := ⟨apart.accordant.advance_alongWay id, apart.rootSteps, apart.out⟩
  markWay id directory apart :=
    ⟨Arena.accordant_markWay_alongWay apart.accordant.unmarked directory, apart.rootSteps, apart.out⟩
  nextSegment id directory apart :=
    have stepped := apart.accordant.nextSegment_alongWay directory
    ⟨stepped.1, stepped.2, apart.rootSteps, apart.out⟩
  rootSteps := by
    intro onWay scene scene' apart
    exact ⟨apart.rootSteps, fun steps => ⟨apart.accordant, rfl, apart.out⟩⟩

/-- The host in which `pwd` can write these texts only. -/
def pwdConfined (sink : Sink ε σ) (context : Context) (texts : List String) (stop : ε) :
    Host ε (Scene σ) where
  write := (sceneHost sink context).write
  call widget repeating scene :=
    if widget = .pwd then answer (sink.confined texts stop) context widget repeating scene
    else answer sink context widget repeating scene

theorem writeText_confined {texts : List String} {text : String} (within : text ∈ texts)
    (sink : Sink ε σ) (stop : ε) :
    Action.writeText (sink.confined texts stop) text = Action.writeText sink text := by
  have among : text.toUTF8.data ∈ texts.map (·.toUTF8.data) :=
    List.mem_map_of_mem within
  funext scene
  unfold Action.writeText Action.writeBytes Sink.confined
  simp only [if_pos among]

/-- These names lead to the directory, and once the way has been marked the walk stands on it. -/
def Scene.Ways (context : Context) (names : List String) (onWay : Bool) (scene : Scene σ) : Prop :=
  ∀ id, context.directory = some id →
    scene.arena.NamesTo id names ∧ (onWay = true → scene.arena.Midway id names)

section
variable {names : List String} {onWay : Bool} {scene later : Scene σ}

theorem Scene.Ways.of_spares (ways : scene.Ways context names onWay) {widget : Widget}
    (spares : Template.Spares context widget scene later) (other : widget ≠ .pwd) :
    later.Ways context names onWay := fun id directory =>
  ⟨(ways id directory).1.of_rungs spares.rungs,
    fun marked => ((ways id directory).2 marked).of_rungs spares.rungs (spares.marks other)⟩

variable (sink) in
/-- `pwd` writes names on the way only, and leaves its walk on the way. -/
theorem answerPwd_ways (ways : scene.Ways context names onWay) {repeating : Bool}
    (begun : repeating = true → onWay = true) (stop : ε) :
    answerPwd (sink.confined names stop) context repeating scene =
        answerPwd sink context repeating scene ∧
      (answerPwd sink context repeating scene).2.Ways context names true := by
  cases directory : context.directory with
  | none =>
      rw [answerPwd_none directory, answerPwd_none directory]
      exact ⟨rfl, fun id here => nomatch directory.symm.trans here⟩
  | some id =>
      obtain ⟨namesTo, marked⟩ := ways id directory
      rw [answerPwd_eq directory, answerPwd_eq directory]
      generalize way : (if repeating then scene.arena else scene.arena.markWay id) = arena
      have same : arena.unmarked = scene.arena.unmarked := way ▸ unmarked_begun scene.arena id repeating
      have midway : arena.Midway id names := by
        rw [← way]
        cases repeating with
        | true => exact marked (begun rfl)
        | false => exact namesTo.midway_markWay
      have rungs : (arena.nextSegment id).2.rungs = scene.arena.rungs :=
        Arena.rungs_of_unmarked ((arena.unmarked_nextSegment id).trans same)
      obtain ⟨told, onward⟩ := midway.nextSegment
      revert told onward rungs
      rcases arena.nextSegment id with ⟨segment, later⟩
      intro rungs told onward
      have stands (out : σ) : Scene.Ways context names true { scene with arena := later, out } := by
        intro id' here
        cases directory.symm.trans here
        exact ⟨namesTo.of_rungs rungs, fun _ => onward⟩
      cases segment with
      | none => exact ⟨rfl, stands scene.out⟩
      | some name =>
          dsimp only
          rw [writeText_confined (told name rfl) sink stop]
          obtain ⟨out, written⟩ := Action.onlyWrites_writeText_then (α := Bool) sink name true
            { scene with arena := later }
          rw [written]
          exact ⟨rfl, stands out⟩

end

theorem Scene.Ways.weaken {names : List String} {scene : Scene σ}
    (ways : scene.Ways context names true) (onWay : Bool) : scene.Ways context names onWay :=
  fun id directory => ⟨(ways id directory).1, fun _ => (ways id directory).2 rfl⟩

/-- An answer beside itself. -/
theorem paired_self {α ω : Type} {Whole : α → ω → Prop} {answer : Except ε α × ω}
    (whole : ∀ value, Whole value answer.2) :
    Paired (fun value => Same (fun world world' => world = world' ∧ Whole value world) value) Eq
      answer answer := by
  rcases answer with ⟨failure | value, later⟩
  · exact .error failure rfl
  · exact .ok ⟨rfl, rfl, whole value⟩

/-- An expansion goes the same way if `pwd` can write these names only. -/
theorem alongside_pwdConfined (sink : Sink ε σ) (context : Context) (names : List String) (stop : ε) :
    Alongside (sceneHost sink context) (pwdConfined sink context names stop)
      (fun onWay scene scene' => scene = scene' ∧ scene.Ways context names onWay) Eq where
  forget := by
    rintro scene _ ⟨rfl, ways⟩
    exact ⟨rfl, ways.weaken false⟩
  write := by
    rintro onWay scene _ bytes ⟨rfl, ways⟩
    refine paired_self fun _ => ?_
    obtain ⟨out, written⟩ := Action.onlyWrites_writeBytes sink bytes scene
    change ((Action.writeBytes sink bytes scene).2).Ways context names onWay
    rw [written]
    exact ways
  call := by
    rintro onWay scene _ widget repeating begun ⟨rfl, ways⟩
    by_cases way : widget = .pwd
    · subst way
      obtain ⟨confined, onward⟩ := answerPwd_ways sink ways (begun · rfl) stop
      have same : (pwdConfined sink context names stop).call .pwd repeating scene =
          (sceneHost sink context).call .pwd repeating scene := confined
      rw [same]
      exact paired_self fun _ => onward.weaken _
    · have same : (pwdConfined sink context names stop).call widget repeating scene =
          (sceneHost sink context).call widget repeating scene := if_neg way
      rw [same]
      simp only [way, decide_false, Bool.and_false, Bool.or_false]
      exact paired_self fun _ =>
        ways.of_spares (answer_spares sink context widget repeating scene) way

/-- Whatever marks an arena has on its snapshots, a template comes to the same in it, with the same written,
the same diagnostics and the same cursors, or does not come to an end. And `pwd` writes nothing but the names
that lead to the directory: where it could write nothing else, the expansion would be the same. -/
theorem expand_leftovers (sink : Sink ε σ) (context : Context) (fuel : Nat) (suppressed : Bool)
    (template : Template) {scene : Scene σ} {arena : Arena}
    (same : arena.unmarked = scene.arena.unmarked) :
    ((template.expand (sceneHost sink context) fuel suppressed scene = none ∧
        template.expand (sceneHost sink context) fuel suppressed { scene with arena } = none) ∨
      ∃ result after later arena',
        template.expand (sceneHost sink context) fuel suppressed scene = some (result, after, later) ∧
        template.expand (sceneHost sink context) fuel suppressed { scene with arena } =
          some (result, after, { later with arena := arena' }) ∧
        arena'.unmarked = later.arena.unmarked) ∧
    (arena.Founded → ∃ names, (∀ id, context.directory = some id → arena.NamesTo id names) ∧
      ∀ stop, template.expand (pwdConfined sink context names stop) fuel suppressed { scene with arena } =
        template.expand (sceneHost sink context) fuel suppressed { scene with arena }) := by
  constructor
  · rcases expand_alongside (twinned_markedApart sink context).alongside fuel suppressed template
      (.of_unmarked same) with neither | ⟨result, after, later, later', ended, ended', paired⟩
    · exact .inl neither
    · have apart : Scene.MarkedApart context false later later' := by
        cases paired with
        | ok whole => exact whole.2
        | error _ broken => exact broken
      refine .inr ⟨result, after, later, later'.arena, ended, ?_, apart.accordant.unmarked.symm⟩
      rw [← apart.eq_withArena]
      exact ended'
  · intro founded
    have named : ∃ names, ∀ id, context.directory = some id → arena.NamesTo id names := by
      cases context.directory with
      | none => exact ⟨[], nofun⟩
      | some id =>
          obtain ⟨names, namesTo⟩ := founded.exists_namesTo id
          exact ⟨names, by rintro _ ⟨⟩; exact namesTo⟩
    obtain ⟨names, leads⟩ := named
    refine ⟨names, leads, fun stop => ?_⟩
    have ways : Scene.Ways context names false { scene with arena } := fun id directory =>
      ⟨leads id directory, nofun⟩
    rcases expand_alongside (alongside_pwdConfined sink context names stop) fuel suppressed template
      ⟨rfl, ways⟩ with ⟨none, none'⟩ | ⟨result, after, later, later', ended, ended', paired⟩
    · rw [none, none']
    · rw [ended, ended']
      cases paired with
      | ok whole => rw [whole.2.1]
      | error _ same => rw [same]

/-- Below the root of an arena that has been walked through, `pwd` with another `pwd` in its body, where
marks point to snapshots that have been left. -/
theorem expand_leftovers_overtaken :
    let template := Template.ofSource "@(pwd)\x7b@(pwd)/\x7d"
    let host : Host TrayFull (Scene Tray) := sceneHost Tray.sink ⟨.stock, 0, some 1, none⟩
    let stale := (Arena.overtaken.setMark 0 (some 7)).setMark 1 (some 9)
    stale.unmarked = Arena.overtaken.unmarked ∧ stale.Founded ∧
      (∃ result after later arena',
        template.expand host 20 false ⟨.overtaken, 0, .empty .empty none⟩ =
          some (result, after, later) ∧
        template.expand host 20 false ⟨stale, 0, .empty .empty none⟩ =
          some (result, after, { later with arena := arena' }) ∧
        arena'.unmarked = later.arena.unmarked ∧ later.out.held.data = "bb/".toUTF8.data) ∧
      ∃ names, stale.NamesTo 1 names ∧
        ∀ stop, template.expand (pwdConfined Tray.sink ⟨.stock, 0, some 1, none⟩ names stop) 20 false
            ⟨stale, 0, .empty .empty none⟩ =
          template.expand host 20 false ⟨stale, 0, .empty .empty none⟩ := by
  intro template host stale
  have same : stale.unmarked = Arena.overtaken.unmarked := by
    rw [Arena.unmarked_setMark, Arena.unmarked_setMark]
  have written : (template.expand host 20 false ⟨stale, 0, .empty .empty none⟩).map
      (fun ended => ended.2.2.out.held.data) = some "bb/".toUTF8.data := by decide +kernel
  have founded : stale.Founded := Arena.arises_overtaken.founded.of_rungs_prefix
    (Arena.rungs_of_unmarked same ▸ List.prefix_refl _)
  obtain ⟨runs, confined⟩ := @expand_leftovers _ _ Tray.sink ⟨.stock, 0, some 1, none⟩ 20 false template
    ⟨.overtaken, 0, .empty .empty none⟩ stale same
  obtain ⟨names, leads, confined⟩ := confined founded
  refine ⟨same, founded, ?_, names, leads 1 rfl, confined⟩
  rcases runs with ⟨_, none⟩ | ⟨result, after, later, arena', ended, ended', cursors⟩
  · rw [none] at written
    cases written
  · rw [ended'] at written
    exact ⟨result, after, later, arena', ended, ended', cursors, Option.some.inj written⟩

end Template
end SiteIndex

import SiteIndex.Proofs.Template.Walks

/-!
The loops of `pwd` and `root`, and the icons that lie at the root. All three go along the way from the root of
a walk to its directory: `pwd` by the names of the directories on it, the others by one step up for each of
them. Whatever they find of earlier walks, they begin anew, and none of them gets in the way of another.
-/

namespace SiteIndex.Template

open SiteIndex.Listing SiteIndex.Text

section
variable {ε σ : Type}

/-- Writes the text, and does nothing else but to the places of `pwd` and `root`. -/
def Says (sink : Sink ε σ) (text : String) (before later : Scene σ) : Prop :=
  ∃ arena steps, arena.unmarked = before.arena.unmarked ∧
    Action.writeText sink text { before with arena, rootSteps := steps } = (.ok (), later)

/-- A widget that writes and then asks for its body does so or fails. -/
theorem writeText_asks (sink : Sink ε σ) (text : String) (scene : Scene σ) :
    (∃ out, Action.writeText sink text scene = (.ok (), { scene with out }) ∧
        (Action.writeText sink text >>= fun _ => pure true : Action ε σ Bool) scene =
          (.ok true, { scene with out })) ∨
      ∃ failure later, (Action.writeText sink text >>= fun _ => pure true : Action ε σ Bool) scene =
        (.error failure, later) := by
  obtain ⟨out, kept⟩ := Action.onlyWrites_writeText sink text scene
  rw [Action.bind_apply]
  revert kept
  rcases Action.writeText sink text scene with ⟨failure | _, later⟩
  · exact fun _ => .inr ⟨failure, later, rfl⟩
  · rintro rfl
    exact .inl ⟨out, rfl, rfl⟩

/-- These names are ahead of `pwd`: the whole way before its first answer, and what the marks tell of it
from then on. -/
def Treads (id : Nat) (repeating : Bool) (names : List String) (scene : Scene σ) : Prop :=
  if repeating then scene.arena.OnWay id names else scene.arena.Leads names id

/-- These steps are ahead of `root`: one for each level before its first answer, and what is left of them
from then on. -/
def Climbs (id : Nat) (repeating : Bool) (steps : List String) (scene : Scene σ) : Prop :=
  steps = List.replicate (if repeating then scene.rootSteps else scene.arena.levelsBelowRoot id) ".."

variable {context : Context} {id : Nat}

theorem Treads.onWay {repeating : Bool} {names : List String} {scene : Scene σ}
    (treads : Treads id repeating names scene) :
    (if repeating then scene.arena else scene.arena.markWay id).OnWay id names := by
  cases repeating with
  | true => exact treads
  | false => exact Arena.Leads.onWay_markWay treads

/-- `pwd` tells one name on the way after another. -/
theorem walk_pwd (sink : Sink ε σ) (directory : context.directory = some id) :
    Walk sink context .pwd (Treads id) fun name _ => Says sink name where
  stays onWay stays := Arena.OnWay.of_rungs onWay stays.rungs (stays.marks rfl)
  last := by
    intro repeating scene treads
    change ∃ later, answerPwd sink context repeating scene = (.ok false, later)
    rw [answerPwd_eq directory, treads.onWay.nextSegment_nil]
    exact ⟨_, rfl⟩
  next := by
    intro repeating name ahead scene treads
    obtain ⟨arena, next, onWay⟩ := treads.onWay.nextSegment_cons
    have same : arena.unmarked = scene.arena.unmarked := by
      have stepped := Arena.unmarked_nextSegment
        (if repeating then scene.arena else scene.arena.markWay id) id
      rw [next] at stepped
      exact stepped.trans (unmarked_begun scene.arena id repeating)
    change (∃ later, answerPwd sink context repeating scene = (.ok true, later) ∧ _) ∨
      ∃ failure later, answerPwd sink context repeating scene = (.error failure, later)
    rw [answerPwd_eq directory, next]
    rcases writeText_asks sink name { scene with arena } with ⟨out, written, asked⟩ | failed
    · exact .inl ⟨_, asked, ⟨arena, scene.rootSteps, same, written⟩, onWay⟩
    · exact .inr failed

/-- `root` takes one step up after another. -/
theorem walk_root (sink : Sink ε σ) (directory : context.directory = some id) :
    Walk sink context .root (Climbs id) fun step _ => Says sink step where
  stays climbs stays := by
    rw [Climbs, stays.steps rfl]
    exact climbs
  last := by
    intro repeating scene climbs
    change ∃ later, answerRoot sink context repeating scene = (.ok false, later)
    rw [answerRoot_eq, context.levels_eq directory, (List.replicate_eq_nil_iff _).mp climbs.symm]
    exact ⟨_, rfl⟩
  next := by
    intro repeating step ahead scene climbs
    obtain ⟨steps, left⟩ : ∃ steps, (if repeating then scene.rootSteps
        else scene.arena.levelsBelowRoot id) = steps + 1 := by
      refine Nat.exists_eq_succ_of_ne_zero fun none => ?_
      rw [Climbs, none] at climbs
      cases climbs
    rw [Climbs, left] at climbs
    obtain ⟨rfl, rfl⟩ := List.cons.inj climbs
    change (∃ later, answerRoot sink context repeating scene = (.ok true, later) ∧ _) ∨
      ∃ failure later, answerRoot sink context repeating scene = (.error failure, later)
    rw [answerRoot_eq, context.levels_eq directory, left]
    rcases writeText_asks sink ".." { scene with rootSteps := steps } with ⟨out, written, asked⟩ | failed
    · exact .inl ⟨_, asked, ⟨scene.arena, steps, rfl, written⟩, rfl⟩
    · exact .inr failed

/-- What a loop of `pwd` or of `root` writes for the way on which these are the names, piece by piece. -/
def crumbs (names : List String) : Widget → List String
  | .pwd => names
  | _ => List.replicate names.length ".."

/-- Loops over bodies at several places, one after another, each of which goes the whole way: it writes a
piece and goes through its body, piece by piece, and no pass over the body takes it further. -/
inductive Strolls (sink : Sink ε σ) (context : Context) (layout : Layout) (names : List String) :
    List (Widget × Place) → Progress (Scene σ) → Outcome ε (Scene σ) → Prop
  | done {progress : Progress (Scene σ)} :
      Strolls sink context layout names [] progress (.ended .finished progress)
  | loop {widget : Widget} {start : Place} {loops : List (Widget × Place)}
      {progress between : Progress (Scene σ)} {fuel : Nat} {outcome : Outcome ε (Scene σ)}
      (rounds : Rounds (sceneHost sink context) layout widget start (fun piece _ => Says sink piece)
        (fun _ _ entered between => Stays context widget entered.world between.world) false
        (crumbs names widget) progress (.ended .finished between))
      (ran : expandBody (sceneHost sink context) layout false fuel (some widget) false start progress =
        .ended .finished between)
      (onward : Strolls sink context layout names loops between outcome) :
      Strolls sink context layout names ((widget, start) :: loops) progress outcome
  /-- A write has failed. -/
  | failed {widget : Widget} {start : Place} {loops : List (Widget × Place)}
      {progress broken : Progress (Scene σ)} {fuel : Nat} {failure : ε}
      (rounds : Rounds (sceneHost sink context) layout widget start (fun piece _ => Says sink piece)
        (fun _ _ entered between => Stays context widget entered.world between.world) false
        (crumbs names widget) progress (.failed failure broken))
      (ran : expandBody (sceneHost sink context) layout false fuel (some widget) false start progress =
        .failed failure broken) :
      Strolls sink context layout names ((widget, start) :: loops) progress (.failed failure broken)

variable {sink : Sink ε σ} {layout : Layout} {names : List String} {origin : Progress (Scene σ)}
  {Shut : Prop}

/-- Wherever earlier walks have come to, a loop goes the whole way unless a write fails. -/
theorem rounds_of_leads (Open : σ → Prop)
    (kept : Kept sink context (fun scene => Open scene.out) fun _ => Shut)
    (directory : context.directory = some id) (leads : origin.world.arena.Leads names id)
    (positive : 0 < origin.depth) {widget : Widget} {start : Place}
    (either : widget = .pwd ∨ widget = .root) (fits : Fits sink context layout widget start origin)
    {progress : Progress (Scene σ)} (beside : origin.Beside progress)
    (still : progress.world.arena.still context.directory = origin.world.arena.still context.directory)
    (opened : Open progress.world.out) :
    (∃ final, Rounds (sceneHost sink context) layout widget start (fun piece _ => Says sink piece)
        (fun _ _ entered between => Stays context widget entered.world between.world) false
        (crumbs names widget) progress (.ended .finished final) ∧ origin.Beside final ∧
        final.world.arena.still context.directory = origin.world.arena.still context.directory ∧
        Open final.world.out) ∨
      Shut ∧ ∃ failure broken, Rounds (sceneHost sink context) layout widget start
        (fun piece _ => Says sink piece)
        (fun _ _ entered between => Stays context widget entered.world between.world) false
        (crumbs names widget) progress (.failed failure broken) := by
  have here := leads.of_rungs (Arena.rungs_of_still still)
  rcases either with rfl | rfl
  · exact (walk_pwd sink directory).rounds kept fits positive (fun _ _ _ _ stays => stays) beside still
      opened here
  · refine (walk_root sink directory).rounds kept fits positive (fun _ _ _ _ stays => stays) beside still
      opened ?_
    exact congrArg (List.replicate · "..") here.levelsBelowRoot.symm

/-- Loops one after another each go the whole way, unless a write fails. -/
theorem strolls_of_leads (Open : σ → Prop)
    (kept : Kept sink context (fun scene => Open scene.out) fun _ => Shut)
    (directory : context.directory = some id) (leads : origin.world.arena.Leads names id)
    (positive : 0 < origin.depth) {loops : List (Widget × Place)}
    (ways : ∀ loop ∈ loops, (loop.1 = .pwd ∨ loop.1 = .root) ∧
      Fits sink context layout loop.1 loop.2 origin)
    {progress : Progress (Scene σ)} (beside : origin.Beside progress)
    (still : progress.world.arena.still context.directory = origin.world.arena.still context.directory)
    (opened : Open progress.world.out) :
    (∃ final, Strolls sink context layout names loops progress (.ended .finished final)) ∨
      Shut ∧ ∃ failure broken, Strolls sink context layout names loops progress
        (.failed failure broken) := by
  induction loops generalizing progress with
  | nil => exact .inl ⟨progress, .done⟩
  | cons loop loops ih =>
      obtain ⟨widget, start⟩ := loop
      obtain ⟨⟨either, fits⟩, others⟩ := List.forall_mem_cons.mp ways
      rcases rounds_of_leads Open kept directory leads positive either fits beside still opened with
        ⟨between, rounds, beside, still, opened⟩ | ⟨shut, failure, broken, rounds⟩
      · obtain ⟨fuel, ran⟩ := rounds.expandBody
        rcases ih others beside still opened with ⟨final, strolls⟩ | ⟨shut, failure, broken, strolls⟩
        · exact .inl ⟨final, .loop rounds ran strolls⟩
        · exact .inr ⟨shut, failure, broken, .loop rounds ran strolls⟩
      · obtain ⟨fuel, ran⟩ := rounds.expandBody
        exact .inr ⟨shut, failure, broken, .failed rounds ran⟩

/-- A sink of which nothing is known. -/
theorem kept_any (sink : Sink ε σ) (context : Context) :
    Kept sink context (fun _ => True) fun _ => True where
  write := by
    intro scene bytes _
    split <;> trivial
  moves _ _ _ _ := trivial
  rootSteps _ _ := trivial

/-- The generic icon is as many steps up as the directory has levels above it. -/
theorem answerFileIcon_generic (directory : context.directory = some id) {scene : Scene σ}
    (leads : scene.arena.Leads names id) {snapshot : Snapshot} {entry : Entry}
    (found : scene.arena.get? id = some snapshot) (selected : snapshot.selected? = some entry)
    (bare : (sink.files scene.out).isFile
      (Path.join snapshot.path (Sidecar.iconName context.conventions entry.name)) = false) :
    answerFileIcon sink context scene =
      (do
        Action.writePieces sink (List.replicate names.length ["..", "/"]).flatten
        Action.writeText sink (Sidecar.genericIcon context.conventions entry.isDirectory)
        return false : Action ε σ Bool) scene := by
  have seen : context.directory.bind scene.arena.get? = some snapshot := by
    rw [directory, Option.bind_some, found]
  unfold answerFileIcon
  rw [Action.snapshot_apply, seen]
  dsimp only
  rw [selected]
  dsimp only
  rw [Action.files_apply, bare, if_neg Bool.false_ne_true, Action.levels_apply,
    context.levels_eq directory, leads.levelsBelowRoot]

/-- Loops of `pwd` and `root` one after another, over closed bodies that end and do not call the widget itself,
each go the whole way, whatever marks and steps have been left behind: `pwd` by the names on it, in their
order, `root` by a step up for each of them, and so does a generic icon. Only a failing write keeps them from
it. -/
theorem expand_breadcrumbs (sink : Sink ε σ) {layout : Layout} {names : List String}
    {progress : Progress (Scene σ)} (directory : context.directory = some id)
    (leads : progress.world.arena.Leads names id) (positive : 0 < progress.depth)
    {loops : List (Widget × Place)}
    (ways : ∀ loop ∈ loops, (loop.1 = .pwd ∨ loop.1 = .root) ∧
      Fits sink context layout loop.1 loop.2 progress) :
    (∃ outcome, Strolls sink context layout names loops progress outcome ∧
      (sink.Accepts progress.world.out → ∃ final, outcome = .ended .finished final)) ∧
    ∀ (scene : Scene σ) (snapshot : Snapshot) (entry : Entry),
      scene.arena.still context.directory = progress.world.arena.still context.directory →
      scene.arena.get? id = some snapshot → snapshot.selected? = some entry →
      (sink.files scene.out).isFile
        (Path.join snapshot.path (Sidecar.iconName context.conventions entry.name)) = false →
      answerFileIcon sink context scene =
        (do
          Action.writePieces sink (List.replicate names.length ["..", "/"]).flatten
          Action.writeText sink (Sidecar.genericIcon context.conventions entry.isDirectory)
          return false : Action ε σ Bool) scene := by
  refine ⟨?_, fun scene snapshot entry still found selected bare =>
    answerFileIcon_generic directory (leads.of_rungs (Arena.rungs_of_still still)) found selected bare⟩
  by_cases accepts : sink.Accepts progress.world.out
  · rcases strolls_of_leads sink.Accepts (kept_accepts sink context) directory leads positive ways ⟨rfl, rfl⟩ rfl
      accepts with ⟨final, strolls⟩ | ⟨shut, _⟩
    · exact ⟨_, strolls, fun _ => ⟨final, rfl⟩⟩
    · exact shut.elim
  · rcases strolls_of_leads (fun _ => True) (kept_any sink context) directory leads positive ways
      ⟨rfl, rfl⟩ rfl trivial with ⟨final, strolls⟩ | ⟨_, failure, broken, strolls⟩
    · exact ⟨_, strolls, fun _ => ⟨final, rfl⟩⟩
    · exact ⟨_, strolls, fun accepted => absurd accepted accepts⟩

/-- Two levels below the root, a loop of `pwd` with one of `root` in its body, and then one of `root` with one
of `pwd` in its body. -/
theorem expand_breadcrumbs_nested :
    let arena : Arena := ⟨[⟨none, none, "", [⟨"a", 0, true⟩], [], .directory 0, none⟩,
      ⟨some 0, some "a", "a", [⟨"b", 0, true⟩], [], .directory 0, none⟩,
      ⟨some 1, some "b", "a/b", [], [], .unset, none⟩]⟩
    let down : Place := ⟨7, false, "@(root)\x7b-\x7d;\x7d@(root)\x7b@(pwd)\x7b-\x7d;\x7d".toList⟩
    let up : Place := ⟨27, false, "@(pwd)\x7b-\x7d;\x7d".toList⟩
    let progress : Progress (Scene Tray) := ⟨down, 0, 1, #[], ⟨arena, 0, .empty .empty none⟩⟩
    ∃ final, Strolls Tray.sink ⟨.stock, 0, some 2, none⟩ .bodyOnly ["a", "b"]
      [(.pwd, down), (.root, up)] progress (.ended .finished final) := by
  intro arena down up progress
  have above : arena.Leads ([] ++ ["a"]) 1 := .child (.root rfl rfl) rfl rfl (by decide) rfl
  have leads : arena.Leads (["a"] ++ ["b"]) 2 := .child above rfl rfl (by decide) rfl
  have first : Fits Tray.sink ⟨.stock, 0, some 2, none⟩ .bodyOnly .pwd down progress :=
    .of_apart Nat.one_pos (by decide +kernel) (by decide +kernel) (by decide +kernel)
  have second : Fits Tray.sink ⟨.stock, 0, some 2, none⟩ .bodyOnly .root up progress :=
    .of_apart Nat.one_pos (by decide +kernel) (by decide +kernel) (by decide +kernel)
  have ways : ∀ loop ∈ [(Widget.pwd, down), (Widget.root, up)],
      (loop.1 = .pwd ∨ loop.1 = .root) ∧
        Fits Tray.sink ⟨.stock, 0, some 2, none⟩ .bodyOnly loop.1 loop.2 progress :=
    List.forall_mem_cons.mpr ⟨⟨.inl rfl, first⟩, List.forall_mem_singleton.mpr ⟨.inr rfl, second⟩⟩
  obtain ⟨⟨outcome, strolls, whole⟩, _⟩ := expand_breadcrumbs Tray.sink rfl leads Nat.one_pos ways
  obtain ⟨final, rfl⟩ := whole (Tray.accepts _ rfl)
  exact ⟨final, strolls⟩

end
end SiteIndex.Template

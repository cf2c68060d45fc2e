import SiteIndex.Proofs.Template.CursorBack
import SiteIndex.Proofs.Template.Walks

/-!
The loop of `files`. It comes to each entry that is still ahead of the cursor, in the order of the listing,
and the cursor stays there as long as the body is gone through. Behind the last entry the cursor is unset,
from where all entries are ahead of it again.
-/

namespace SiteIndex.Template

open SiteIndex.Listing SiteIndex.Text

section
variable {ε σ : Type}

/-- Whether the entry is selected, and these are the ones that are still to come. -/
def Context.standsAt (context : Context) (entry : Entry) (ahead : List Entry) (scene : Scene σ) : Bool :=
  (context.directory.bind scene.arena.get?).any fun snapshot =>
    snapshot.selected? == some entry && snapshot.comingEntries == ahead

/-- The visible pass over a body from one progress to another, the cursor on the entry throughout. -/
def VisitOf (sink : Sink ε σ) (context : Context) (layout : Layout) (start : Place) (entry : Entry)
    (ahead : List Entry) (entered between : Progress (Scene σ)) : Prop :=
  ∃ fuel, expandItems ((sceneHost sink context).watching (context.standsAt entry ahead)) layout false fuel
      "" ((entered.inWorld (entered.world, true)).moveTo start).enter =
    .ended .finished (between.inWorld (between.world, true))

/-- These entries are ahead of the cursor, and a loop that has begun has not come round. -/
def Awaits (id : Nat) (repeating : Bool) (items : List Entry) (scene : Scene σ) : Prop :=
  ∃ snapshot, scene.arena.get? id = some snapshot ∧ snapshot.comingEntries = items ∧
    (repeating = true → snapshot.cursor ≠ .unset)

variable {sink : Sink ε σ} {context : Context} {id : Nat}

/-- A `files` that sees a listing moves the cursor on, unless an inner one has come to the end. -/
theorem answerFiles_advances (directory : context.directory = some id) {repeating : Bool}
    {scene : Scene σ} {snapshot : Snapshot} (found : scene.arena.get? id = some snapshot)
    (begun : repeating = true → snapshot.cursor ≠ .unset) :
    (answerFiles context repeating : Action ε σ Bool) scene =
      (.ok snapshot.advance.1, { scene with arena := (scene.arena.advance id).2 }) := by
  have seen : context.directory.bind scene.arena.get? = some snapshot := by
    rw [directory, Option.bind_some, found]
  rcases answerFiles_cases (ε := ε) context repeating scene with
    ⟨_, exhausted⟩ | ⟨id', snapshot', directory', found', _, moved⟩
  · obtain ⟨repeated, unset⟩ := exhausted snapshot seen
    exact absurd unset (begun repeated)
  · cases directory.symm.trans directory'
    cases found.symm.trans found'
    exact moved

/-- A `files` with entries ahead of it comes to the first of them. -/
theorem walk_files (sink : Sink ε σ) (directory : context.directory = some id) :
    Walk sink context .files (Awaits id)
      fun entry ahead _ later => context.standsAt entry ahead later = true where
  stays := by
    rintro items before later ⟨snapshot, found, coming, begun⟩ stays
    obtain ⟨snapshot', found', alike⟩ := Arena.found_of_unmarked (stays.cursors rfl) found
    have coming' : snapshot'.unmarked.comingEntries = snapshot.unmarked.comingEntries :=
      congrArg Snapshot.comingEntries alike
    have cursor : snapshot'.unmarked.cursor = snapshot.unmarked.cursor := congrArg Snapshot.cursor alike
    exact ⟨snapshot', found', coming'.trans coming, fun repeated => cursor.trans_ne (begun repeated)⟩
  last := by
    rintro repeating scene ⟨snapshot, found, coming, begun⟩
    have answered := answerFiles_advances (ε := ε) directory found begun
    rw [Snapshot.advance_of_nil coming] at answered
    exact ⟨_, answered⟩
  next := by
    rintro repeating entry ahead scene ⟨snapshot, found, coming, begun⟩
    have answered := answerFiles_advances (ε := ε) directory found begun
    obtain ⟨selects, selected, behind⟩ := Snapshot.advance_of_cons coming
    have found' := Arena.found_advance found
    rw [selects] at answered
    refine .inl ⟨_, answered, ?_, snapshot.advance.2, found', behind,
      fun _ => Snapshot.selected_of_cons coming⟩
    simp [Context.standsAt, directory, found', selected, behind]

/-- Where the cursor stands is told without the marks. -/
theorem standsAt_of_unmarked {entry : Entry} {ahead : List Entry} {scene later : Scene σ}
    (same : later.arena.unmarked = scene.arena.unmarked)
    (stands : context.standsAt entry ahead scene = true) : context.standsAt entry ahead later = true := by
  unfold Context.standsAt at stands ⊢
  obtain ⟨snapshot, seen, here⟩ := (Option.any_eq_true _ _).mp stands
  cases directory : context.directory with
  | none => simp [directory] at seen
  | some id =>
      rw [directory, Option.bind_some] at seen
      obtain ⟨snapshot', found, alike⟩ := Arena.found_of_unmarked same seen
      have selected : snapshot'.unmarked.selected? = snapshot.unmarked.selected? :=
        congrArg Snapshot.selected? alike
      have coming : snapshot'.unmarked.comingEntries = snapshot.unmarked.comingEntries :=
        congrArg Snapshot.comingEntries alike
      change snapshot'.selected? = snapshot.selected? at selected
      change snapshot'.comingEntries = snapshot.comingEntries at coming
      rw [Option.bind_some, found, Option.any_some, selected, coming]
      exact here

/-- A loop of `files` over a closed body that ends and calls no `files` goes through the body once for each
entry that is ahead of the cursor, in the order of the listing, with the cursor on that entry from one end of
the pass to the other. Then the cursor is unset, and all entries are ahead of it. -/
theorem expand_visits_entries (sink : Sink ε σ) {layout : Layout} {start : Place}
    {progress : Progress (Scene σ)} {snapshot : Snapshot} (directory : context.directory = some id)
    (found : progress.world.arena.get? id = some snapshot) (accepts : sink.Accepts progress.world.out)
    (positive : 0 < progress.depth) (fits : Fits sink context layout .files start progress) :
    ∃ final later,
      Rounds (sceneHost sink context) layout .files start
        (fun entry ahead _ scene => context.standsAt entry ahead scene = true)
        (VisitOf sink context layout start) false snapshot.comingEntries progress
        (.ended .finished final) ∧
      (∃ fuel, expandBody (sceneHost sink context) layout false fuel (some .files) false start progress =
        .ended .finished final) ∧
      final.world.arena.get? id = some later ∧ later.cursor = .unset ∧
      later.comingEntries = snapshot.entries := by
  have calls : (Section.read layout true start).1.Calls (· ≠ .files) :=
    fun name within other named same => fits.foreign name within (named.trans (congrArg some same))
  have ready : Awaits id false snapshot.comingEntries progress.world := ⟨snapshot, found, rfl, nofun⟩
  have visits {entry : Entry} {ahead : List Entry} {entered between : Progress (Scene σ)} {fuel : Nat}
      (here : 0 < entered.depth) (stands : context.standsAt entry ahead entered.world = true)
      (gone : expandItems (sceneHost sink context) layout false fuel "" (entered.moveTo start).enter =
        .ended .finished between) : VisitOf sink context layout start entry ahead entered between :=
    ⟨fuel, visible_pass_watched (bearing_stays sink .files entered.world)
      (fun scene stays => standsAt_of_unmarked (stays.cursors rfl) stands) fits.closed calls here
      (.refl .files entered.world) gone⟩
  rcases (walk_files sink directory).rounds (kept_accepts sink context) fits positive
    (fun here stands _ gone _ => visits here stands gone) ⟨rfl, rfl⟩ rfl accepts ready with ⟨final, rounds, _, still, _⟩ | ⟨shut, _⟩
  · obtain ⟨_, repeating, before, called⟩ := rounds.last
    have unset : context.Hands (· = .unset) final.world.arena := unset_of_answerFiles (ε := ε) called
    have seen : context.directory.bind progress.world.arena.get? = some snapshot := by
      rw [directory, Option.bind_some, found]
    obtain ⟨later, seen', -, entries⟩ := Arena.seen_alike still.symm seen
    have found' : final.world.arena.get? id = some later := by
      rwa [directory, Option.bind_some] at seen'
    have cursor : later.cursor = .unset := unset later (by rw [directory, Option.bind_some, found'])
    exact ⟨final, later, rounds, rounds.expandBody, found', cursor,
      (Snapshot.comingEntries_of_unset cursor).trans entries⟩
  · exact shut.elim

/-- A loop over two files, with a loop of `pwd` in its body. -/
theorem expand_visits_entries_twoFiles :
    let first : Entry := ⟨"a", 1, false⟩
    let second : Entry := ⟨"b", 1, false⟩
    let start : Place := ⟨9, false, "@(filename)@(pwd)\x7b/\x7d;\x7d".toList⟩
    let progress : Progress (Scene Tray) :=
      ⟨start, 0, 1, #[], ⟨⟨[⟨none, none, "", [], [first, second], .unset, none⟩]⟩, 0,
        .empty .empty none⟩⟩
    ∃ final, Rounds (sceneHost Tray.sink ⟨.stock, 0, some 0, none⟩) .bodyOnly .files start
      (fun entry ahead _ scene => Context.standsAt ⟨.stock, 0, some 0, none⟩ entry ahead scene = true)
      (VisitOf Tray.sink ⟨.stock, 0, some 0, none⟩ .bodyOnly start) false [first, second] progress
      (.ended .finished final) := by
  intro first second start progress
  have fits : Fits Tray.sink ⟨.stock, 0, some 0, none⟩ .bodyOnly .files start progress :=
    .of_apart Nat.one_pos (by decide +kernel) (by decide +kernel) (by decide +kernel)
  obtain ⟨final, _, rounds, _⟩ := expand_visits_entries Tray.sink rfl rfl (Tray.accepts _ rfl)
    Nat.one_pos fits
  exact ⟨final, rounds⟩

end
end SiteIndex.Template

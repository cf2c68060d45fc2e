import SiteIndex.Proofs.Build.Pages

/-!
The index of a directory, written by two builds with two texts, and the entry of the directory in the
site map. From the index on the two snapshots may differ by the cursor, and the site map with them; when
the cursor is reset they are the same again.
-/

namespace SiteIndex.Build

open SiteIndex.Listing SiteIndex.FileSystem SiteIndex.Template

/-- With this directory written as well. -/
def adding (done : Location → Prop) (directory : Location) (location : Location) : Prop :=
  done location ∨ location = directory

section
variable {site : Site} {mapped : Bool} {done : Location → Prop} {spot : Spot} {even : Prop}
  {state state' : State} {id : Nat} {path : String} {directory : Location} {listing : Snapshot}

theorem Site.veil_adding {location : Location} (veiled : site.veil mapped done location) :
    site.veil mapped (adding done directory) location := by
  rcases veiled with here | ⟨written, done, here⟩ | ⟨opened, unmet, ⟨written, done⟩, here⟩
  · exact .inl here
  · exact .inr (.inl ⟨written, .inl done, here⟩)
  · exact .inr (.inr ⟨opened, unmet, ⟨written, .inl done⟩, here⟩)

theorem Site.veil_index : site.veil mapped (adding done directory) (directory ++ ["index.html"]) :=
  .inr (.inl ⟨directory, .inr rfl, rfl⟩)

/-- An expansion leaves the index template as it was, to be rewound and expanded again. -/
theorem rewound_of_expand {ε ω : Type} {host : Host ε ω} {fuel : Nat} {suppressed : Bool}
    {template after : Template} {world later : ω} {ending : Ending} {text : String}
    (rewound : template.rewind = withLayout text .bodyOnly)
    (ended : template.rewind.expand host fuel suppressed world = some (.ok ending, after, later)) :
    after.takeDiagnostics.2.rewind = withLayout text .bodyOnly := by
  rw [rewound] at ended
  rw [← refreshed_withLayout]
  exact restored_of_expand rfl ended

theorem isEntryName_index : IsEntryName "index.html" :=
  ⟨⟨by decide, by decide⟩, by decide, by decide⟩

section
variable (inside : Inside site spot id path directory listing)
  (located : Located site done spot.origin path directory)
include inside

theorem Walking.adding (before : Walking site mapped done spot even state state') :
    Walking site mapped (adding done directory) spot even state state' where
  toTwin := before.toTwin.mono (fun _ => Site.veil_adding) (site.hidesByName_veil mapped _)
  extended := before.extended
  arena := before.arena
  arena' := before.arena'
  level := before.level
  mapping := before.mapping
  within := by
    rintro other (done | rfl)
    · exact before.within other done
    · exact inside.below

/-- Where the index is about to be written, its two texts are expanded in scenes that are related. -/
theorem Walking.indexScenes (before : Walking site mapped done spot True state state')
    (located : Located site done spot.origin path directory)
    (vacant : state.files.node? (directory ++ ["index.html"]) ≠ some .directory) :
    Scene.Related site.place (site.veil mapped done) (site.plan.context (some id) none) false
      ⟨state.arena, 0, ⟨state.files.put (directory ++ ["index.html"]) (.file .empty),
        .ofFile ⟨directory ++ ["index.html"], 0⟩⟩⟩
      ⟨state'.arena, 0, ⟨state'.files.put (directory ++ ["index.html"]) (.file .empty),
        .ofFile ⟨directory ++ ["index.html"], 0⟩⟩⟩ where
  lodged := by
    rw [← inside.here]
    exact (before.toStage.created inside.below isEntryName_index (by decide) vacant).lodged inside.sited
      (fun _ absent => by cases absent)
  accordant := ⟨before.level trivial, fun _ within => nomatch within.1⟩
  rootSteps := rfl
  out := rfl
  files := before.alike.put (by simp) _
  shown := before.shown_entry located fun same => absurd (List.append_inj' same rfl).2 (by decide)
  holds := ⟨.empty, node?_putEntry ..⟩

/-- An index that is written leaves what it is written to hidden, and the cursor where it came to. -/
theorem Walking.indexed (before : Walking site mapped done spot True state state')
    (vacant : state.files.node? (directory ++ ["index.html"]) ≠ some .directory)
    {template template' after after' : Template}
    (rewound : template.rewind = withLayout site.text .bodyOnly)
    (rewound' : template'.rewind = withLayout site.text' .bodyOnly)
    {fuel fuel' : Nat} {ending ending' : Ending} {scene scene' : Scene FileWriter}
    (ended : template.rewind.expand (sceneHost FileWriter.sink (site.plan.context (some id) none))
      fuel false ⟨state.arena, 0, ⟨state.files.put (directory ++ ["index.html"]) (.file .empty),
        .ofFile ⟨directory ++ ["index.html"], 0⟩⟩⟩ = some (.ok ending, after, scene))
    (ended' : template'.rewind.expand (sceneHost FileWriter.sink (site.plan.context (some id) none))
      fuel' false ⟨state'.arena, 0, ⟨state'.files.put (directory ++ ["index.html"]) (.file .empty),
        .ofFile ⟨directory ++ ["index.html"], 0⟩⟩⟩ = some (.ok ending', after', scene'))
    {content content' : ByteArray} {files files' : FileSystem}
    (written : Rewritten (directory ++ ["index.html"]) content
      (state.files.put (directory ++ ["index.html"]) (.file .empty)) files)
    (written' : Rewritten (directory ++ ["index.html"]) content'
      (state'.files.put (directory ++ ["index.html"]) (.file .empty)) files')
    (level : site.Meets → scene.arena.unmarked = scene'.arena.unmarked) :
    Walking site mapped (Build.adding done directory) spot site.Meets
      { state.expanded ".index.html" after scene with
        files := files, index := some after.takeDiagnostics.2 }
      { state'.expanded ".index.html" after' scene' with
        files := files', index := some after'.takeDiagnostics.2 } := by
  have still := (expand_leaves (node?_putEntry ..) ended).2.still
  have still' := (expand_leaves (node?_putEntry ..) ended').2.still
  have around := (before.adding inside).toStage.created inside.below isEntryName_index
    (by decide) vacant
  have alike : Alike (site.veil mapped (Build.adding done directory)) files files' :=
    ((written.alike.symm.trans around.alike).trans written'.alike).mono (by
      rintro location ((rfl | within) | rfl)
      · exact Site.veil_index
      · exact within
      · exact Site.veil_index)
  have stage := (around.rewritten written.alike.outline alike).touched
    (by rw [inside.here]; exact still) (by rw [inside.here]; exact still')
    level (Report.shown_addDiagnostics _ ".index.html" after.diagnostics)
    (Report.shown_addDiagnostics _ ".index.html" after'.diagnostics)
  exact { stage with
    index := .some ⟨rewound_of_expand rewound ended, rewound_of_expand rewound' ended'⟩
    mapping := before.mapping
    within := (before.adding inside).within }

/-- Where the two texts move the cursor to the same entry, the snapshots stay the same. -/
theorem Announcing.leveled (before : Announcing site mapped done spot state state')
    (located : Located site done spot.origin path directory)
    (vacant : state.files.node? (directory ++ ["index.html"]) ≠ some .directory)
    (meets : site.Meets) {fuel fuel' : Nat} {ending ending' : Ending}
    {after after' : Template} {scene scene' : Scene FileWriter}
    (ended : (withLayout site.text .bodyOnly).expand
      (sceneHost FileWriter.sink (site.plan.context (some id) none)) fuel false
      ⟨state.arena, 0, ⟨state.files.put (directory ++ ["index.html"]) (.file .empty),
        .ofFile ⟨directory ++ ["index.html"], 0⟩⟩⟩ = some (.ok ending, after, scene))
    (ended' : (withLayout site.text' .bodyOnly).expand
      (sceneHost FileWriter.sink (site.plan.context (some id) none)) fuel' false
      ⟨state'.arena, 0, ⟨state'.files.put (directory ++ ["index.html"]) (.file .empty),
        .ofFile ⟨directory ++ ["index.html"], 0⟩⟩⟩ = some (.ok ending', after', scene')) :
    scene.arena.unmarked = scene'.arena.unmarked := by
  have related := before.toWalking.indexScenes inside located vacant
  have still : scene.arena.still (some id) = state.arena.still (some id) :=
    (expand_leaves (node?_putEntry ..) ended).2.still
  have still' : scene'.arena.still (some id) = state'.arena.still (some id) :=
    (expand_leaves (node?_putEntry ..) ended').2.still
  have level := Arena.still_of_unmarked (before.level trivial) (some id)
  have hands := before.hands meets
  rw [inside.here] at hands
  exact Arena.unmarked_of_cursor (still.trans (level.trans still'.symm))
    (meets.index related hands ended ended')

/-- The index of a directory is written in both builds or in neither. -/
theorem writeIndex_aligned (located : Located site done spot.origin path directory) :
    Step.Aligned (Announcing site mapped done spot)
      (fun wrote wrote' state state' => wrote = wrote' ∧
        Walking site mapped (Build.adding done directory) spot site.Meets state state')
      (Broken site) (Step.writeIndex site.plan id path) (Step.writeIndex site.plan' id path) := by
  intro state state' before result result' run run'
  have walking := before.toWalking
  have passedOver : Walking site mapped (Build.adding done directory) spot site.Meets state state' :=
    { walking.adding inside with level := fun _ => walking.level trivial }
  obtain ⟨closed, closed'⟩ | ⟨template, template', opened, opened', rewound, rewound'⟩ :=
    before.index_cases
  · cases (Step.writeIndex_closed closed).symm.trans run
    cases (Step.writeIndex_closed closed').symm.trans run'
    exact .ok ⟨rfl, passedOver⟩
  cases made : state.files.create (Path.join path site.plan.settings.outputs.index) with
  | error cause =>
      have made' : state'.files.create (Path.join path site.plan'.settings.outputs.index) =
        .error cause := walking.alike.create_error made
      cases (Step.writeIndex_refused made).symm.trans run
      cases (Step.writeIndex_refused made').symm.trans run'
      exact .ok ⟨rfl, passedOver⟩
  | ok created =>
      obtain ⟨rfl, made', vacant⟩ := walking.alike.create_entry walking.tree
        (located.at_spot walking) inside.below isEntryName_index made
      change state'.files.create (Path.join path site.plan'.settings.outputs.index) = _ at made'
      obtain ⟨result, later⟩ := result
      obtain ⟨result', later'⟩ := result'
      obtain ⟨ending, after, scene, files, content, ended, rfl, written, rfl⟩ :=
        Step.writeIndex_run opened made (node?_putEntry ..) run
      obtain ⟨ending', after', scene', files', content', ended', rfl, written', rfl⟩ :=
        Step.writeIndex_run opened' made' (node?_putEntry ..) run'
      refine .ok ⟨rfl, walking.indexed inside vacant rewound rewound' ended ended' written
        written' fun meets => ?_⟩
      rw [rewound] at ended
      rw [rewound'] at ended'
      exact before.leveled inside located vacant meets ended ended'

/-- The entry of a directory in the site map. It is the same if the snapshots are. -/
theorem enterMap_aligned :
    Step.Aligned (Walking site mapped (Build.adding done directory) spot site.Meets)
      (fun _ _ => Walking site mapped (Build.adding done directory) spot False)
      (Broken site) (Step.writeBody site.plan .sitemap id none)
      (Step.writeBody site.plan' .sitemap id none) := by
  intro state state' before result result' run run'
  rcases before.feed_cases .sitemap with ⟨closed, closed'⟩ | ⟨feed, _, opened, _, _⟩
  · rw [Step.writeBody_closed closed] at run
    rw [Step.writeBody_closed closed'] at run'
    cases run
    cases run'
    exact .ok { before with level := False.elim }
  · have isMapped : mapped = true := by
      rw [← before.mapping]
      exact Option.isSome_iff_exists.mpr ⟨feed, opened⟩
    have level (shown : ¬ site.veil mapped (Build.adding done directory) (site.output .sitemap)) :
        site.Meets := by
      by_contra unmet
      exact shown (.inr (.inr ⟨isMapped, unmet, ⟨directory, .inr rfl⟩, rfl⟩))
    have written : Step.Aligned (Stage site spot site.Ready
        (site.veil mapped (Build.adding done directory)) site.Meets) _ (Broken site)
        (Step.writeBody site.plan .sitemap id none) _ :=
      writeBody_aligned inside.here inside.sited (fun _ absent => by cases absent) level
        (fun newsfeed => by cases newsfeed)
    cases written state state' before.toStage result result' run run' with
    | error failure broken => exact .error failure broken
    | ok stage =>
        exact .ok { stage with
          level := False.elim
          mapping := (Step.writeBody_open run .sitemap).trans before.mapping
          within := before.within }

/-- Whatever has become of its cursor, the snapshot lists what it has listed from the start. -/
theorem Inside.snapshot {arena : Arena} (still : arena.still spot.directory = spot.base) :
    ∃ snapshot, arena.get? id = some snapshot ∧ snapshot.directories = listing.directories ∧
      snapshot.files = listing.files := by
  rw [inside.here] at still
  obtain ⟨snapshot, found, listed⟩ := Arena.seen_of_still still inside.seen
  subst listed
  exact ⟨snapshot, found, rfl, rfl⟩

theorem noteDirectory_aligned (way : String) (index : Bool) :
    Step.Aligned (Walking site mapped (Build.adding done directory) spot False)
      (fun count count' state state' => count = listing.entries.length ∧ count' = count ∧
        state.arena.unmarked = spot.base ∧
        Walking site mapped (Build.adding done directory) spot True state state')
      (Broken site) (Step.noteDirectory id path way index)
      (Step.noteDirectory id path way index) := by
  rintro state state' before result result' run run'
  obtain ⟨snapshot, found, directories, files⟩ := inside.snapshot before.arena
  obtain ⟨snapshot', found', directories', files'⟩ := inside.snapshot before.arena'
  unfold Step.noteDirectory at run run'
  rw [Step.get_apply] at run run'
  simp only [found, Option.getD_some, directories, files] at run
  simp only [found', Option.getD_some, directories', files'] at run'
  cases run
  cases run'
  have still := before.arena
  have still' := before.arena'
  rw [inside.here] at still still'
  have level : (state.arena.resetCursor id).unmarked = spot.base := by
    rw [Arena.unmarked_resetCursor]
    exact still
  have level' : (state'.arena.resetCursor id).unmarked = spot.base := by
    rw [Arena.unmarked_resetCursor]
    exact still'
  refine .ok ⟨?_, ?_, level, { before with
    report := ?_
    arena := ?_
    arena' := ?_
    level := fun _ => level.trans level'.symm }⟩
  · simp only [Snapshot.entries, directories, files]
  · simp only [Snapshot.entries, directories, files, directories', files']
  · exact congrArg (fun report : Report => { report with
      directories := report.directories.push
        ⟨way, listing.directories.length, listing.files.length, index⟩ }) before.report
  · rw [inside.here]
    exact (state.arena.still_resetCursor id).trans still
  · rw [inside.here]
    exact (state'.arena.still_resetCursor id).trans still'

/-- What belongs to one directory is written in both builds. -/
theorem writePages_aligned (located : Located site done spot.origin path directory) (way : String)
    {sidecars : List String} (named : ∀ sidecar ∈ sidecars, IsEntryName sidecar) :
    Step.Aligned (Announcing site mapped done spot)
      (fun count count' state state' => count = listing.entries.length ∧ count' = count ∧
        state.arena.unmarked = spot.base ∧
        Walking site mapped (Build.adding done directory) spot True state state')
      (Broken site) (Step.writePages site.plan id path way sidecars)
      (Step.writePages site.plan' id path way sidecars) := by
  refine (announceAll_aligned inside located way sidecars named).bind fun _ _ => ?_
  refine (writeIndex_aligned inside located).bind fun wrote wrote' => ?_
  rintro state state' ⟨rfl, walking⟩
  refine ((enterMap_aligned inside).bind fun _ _ => ?_) state state' walking
  exact noteDirectory_aligned inside way wrote

theorem writeDirectory_aligned (located : Located site done spot.origin path directory)
    {sidecars : List String} (named : ∀ sidecar ∈ sidecars, IsEntryName sidecar) :
    Step.Aligned (fun state state' => Walking site mapped done spot True state state' ∧
        state.arena.unmarked = spot.base)
      (fun count count' state state' => count = listing.entries.length ∧ count' = count ∧
        state.arena.unmarked = spot.base ∧
        Walking site mapped (Build.adding done directory) spot True state state')
      (Broken site) (Step.writeDirectory site.plan id path sidecars)
      (Step.writeDirectory site.plan' id path sidecars) := by
  rintro state state' ⟨before, fresh⟩ result result' run run'
  rw [Step.writeDirectory_apply] at run run'
  rw [← Arena.pathString_congr (before.level trivial) id] at run'
  have still := state.arena.still_pathString id spot.directory
  have still' := state'.arena.still_pathString id spot.directory
  have ready : Announcing site mapped done spot
      { state with arena := (state.arena.pathString id).2 }
      { state' with arena := (state'.arena.pathString id).2 } :=
    { before with
      arena := still.trans before.arena
      arena' := still'.trans before.arena'
      level := fun _ => (state.arena.unmarked_pathString id).trans
        ((before.level trivial).trans (state'.arena.unmarked_pathString id).symm)
      hands := fun meets snapshot seen => by
        rw [inside.here, Option.bind_some] at seen
        have unset := congrArg (·.get? id) ((state.arena.unmarked_pathString id).trans fresh)
        simp only [Arena.get?_unmarked, seen, inside.seen, Option.map_some,
          Option.some.injEq] at unset
        have cursor : snapshot.unmarked.cursor = listing.cursor := congrArg Snapshot.cursor unset
        change site.handed snapshot.unmarked.cursor
        rw [cursor, inside.listed.cursor]
        exact meets.unset }
  exact writePages_aligned inside located _ named _ _ ready result result' run run'

end

end

end SiteIndex.Build

import SiteIndex.Proofs.Build.Listings
import SiteIndex.Proofs.Settings.Names

/-!
The news of a directory in two builds. What is announced is read alike, and the bodies of the news feed
hand the cursor of the directory on alike.
-/

namespace SiteIndex.Build

open SiteIndex.Listing SiteIndex.FileSystem SiteIndex.Template

/-- The spot in a directory that has been listed. -/
structure Inside (site : Site) (spot : Spot) (id : Nat) (path : String) (directory : Location)
    (listing : Snapshot) : Prop where
  here : spot.directory = some id
  seen : spot.base.get? id = some listing
  found : spot.origin.find path = .ok (directory, .directory)
  below : site.place <+: directory
  listed : Listed spot.origin path directory listing

/-- Where the news of a directory are announced, and the cursor still waits to be handed on. -/
structure Announcing (site : Site) (mapped : Bool) (done : Location → Prop) (spot : Spot)
    (state state' : State) : Prop extends Walking site mapped done spot True state state' where
  hands : site.Meets → ∀ snapshot, spot.directory.bind state.arena.get? = some snapshot →
    site.handed snapshot.cursor

section
variable {site : Site} {mapped : Bool} {done : Location → Prop} {spot : Spot} {even : Prop}
  {state state' : State} {id : Nat} {path : String} {directory : Location} {listing : Snapshot}

theorem Inside.sited (inside : Inside site spot id path directory listing) : spot.Sited site := by
  intro snapshot seen
  rw [inside.here, Option.bind_some, inside.seen] at seen
  cases seen
  exact ⟨directory, inside.listed.path ▸ inside.found, inside.below, inside.listed.named⟩

section
variable (walking : Walking site mapped done spot even state state')
  (located : Located site done spot.origin path directory)
include walking located

theorem Walking.load_eq {sidecar : String} (named : IsEntryName sidecar) :
    News.Item.load state.files .stock path sidecar =
      News.Item.load state'.files .stock path sidecar := by
  simp only [News.Item.load]
  cases announced : Sidecar.announced? .stock sidecar with
  | none => rfl
  | some name =>
      obtain ⟨stripped, _⟩ := Option.filter_eq_some_iff.mp announced
      have last := last_of_stripSuffix? stripped (c := 's') (by decide)
      rw [walking.alike.readText_entry walking.tree (located.at_spot walking) located.below named
        (walking.hides.shown directory last (by decide))]

/-- Whatever is announced is not hidden. The index template itself could be, but is not. -/
theorem Walking.announced {sidecar : String} (named : IsEntryName sidecar) {item : News.Item}
    (loaded : News.Item.load state.files .stock path sidecar = .ok item) :
    Announced spot.origin site.place (site.veil mapped done) item.target := by
  simp only [News.Item.load] at loaded
  split at loaded
  · cases loaded
  · next name announced =>
    split at loaded
    · cases loaded
    · next text read =>
      cases loaded
      refine ⟨path, directory, name, rfl, located.found, located.below,
        Sidecar.isName_of_announced named announced, walking.shown_entry located fun template => ?_,
        walking.shown_between located located.below (List.prefix_refl _),
        walking.shown_parent located⟩
      obtain ⟨rfl, same⟩ := List.append_inj' template rfl
      cases same
      obtain ⟨location, node, found, content, file, _⟩ := holdsText_of_readText read
      obtain ⟨rfl, _⟩ := walking.tree.find_entry (located.at_spot walking) located.below named found
      rw [Sidecar.eq_of_announced announced] at file
      exact walking.unannounced content file

end

theorem readied_body {fuel : Nat} {template after : Template} {context : Context}
    {scene later : Scene FileWriter} {ending : Ending} (ready : site.Ready template)
    (ended : template.expand (sceneHost FileWriter.sink context) fuel false scene =
      some (.ok ending, after, later)) : site.Ready after.restored := by
  obtain ⟨atBody, text⟩ := ready
  obtain ⟨restored, same⟩ := atBody.restored ended
  exact ⟨restored, by rwa [same]⟩

/-- The news feed hands the cursor on. -/
theorem writeBody_hands (walking : Walking site mapped done spot even state state')
    (here : spot.directory = some id) (meets : site.Meets) {item : News.Item} {later : State}
    (hands : ∀ snapshot, spot.directory.bind state.arena.get? = some snapshot →
      site.handed snapshot.cursor)
    (run : Step.writeBody site.plan .newsfeed id (some item) state = some (.ok (), later)) :
    ∀ snapshot, spot.directory.bind later.arena.get? = some snapshot →
      site.handed snapshot.cursor := by
  obtain ⟨_, between, early, ⟨⟩⟩ := Step.bind_ok run
  rw [State.setFeed_arena]
  rcases walking.feed_cases .newsfeed with ⟨closed, _⟩ | ⟨feed, _, opened, _, twin⟩
  · rw [Step.expandFeed_closed closed] at early
    cases early
    exact hands
  · obtain ⟨content, holds⟩ := twin.opened
    rw [← twin.lies] at holds
    obtain ⟨ending, after, scene, ended, _, rfl⟩ := Step.expandFeed_ok opened holds early
    obtain ⟨atBody, text⟩ := walking.primed feed opened
    rw [here] at hands ⊢
    rw [State.fed, State.setFeed_arena]
    refine meets.newsfeed feed.template atBody text ?_ ended
    exact hands

theorem Announcing.noteNews (before : Announcing site mapped done spot state state')
    (entry : NewsReport) :
    Announcing site mapped done spot
      { state with report := { state.report with news := state.report.news.push entry } }
      { state' with report := { state'.report with news := state'.report.news.push entry } } :=
  { before with
    report := congrArg (fun report : Report => { report with news := report.news.push entry })
      before.report }

theorem writeNews_aligned (inside : Inside site spot id path directory listing)
    {item : News.Item}
    (announced : Announced spot.origin site.place (site.veil mapped done) item.target) :
    Step.Aligned (Announcing site mapped done spot)
      (fun _ _ => Announcing site mapped done spot) (Broken site)
      (Step.writeBody site.plan .newsfeed id (some item))
      (Step.writeBody site.plan' .newsfeed id (some item)) := by
  intro state state' before result result' run run'
  have written : Step.Aligned (Stage site spot site.Ready (site.veil mapped done) True) _
      (Broken site) (Step.writeBody site.plan .newsfeed id (some item)) _ :=
    writeBody_aligned inside.here inside.sited (fun _ told => Option.some.inj told ▸ announced)
      (fun _ => trivial) fun _ _ _ _ _ _ _ _ old ended => readied_body old ended
  cases written state state' before.toStage result result' run run' with
  | error failure broken => exact .error failure broken
  | ok stage =>
      exact .ok
        { stage with
          level := fun _ => stage.level ⟨trivial, stage.newsfeed_shown⟩
          mapping := (Step.writeBody_open run .sitemap).trans before.mapping
          within := before.within
          hands := fun meets => writeBody_hands before.toWalking inside.here meets
            (before.hands meets) run }

section
variable (inside : Inside site spot id path directory listing)
  (located : Located site done spot.origin path directory)
include inside located

theorem announce_aligned (way : String) {sidecar : String} (named : IsEntryName sidecar) :
    Step.Aligned (Announcing site mapped done spot)
      (fun _ _ => Announcing site mapped done spot) (Broken site)
      (Step.announce site.plan id path way sidecar)
      (Step.announce site.plan' id path way sidecar) := by
  intro state state' before result result' run run'
  unfold Step.announce at run run'
  rw [Step.get_apply] at run run'
  have same := before.toWalking.load_eq located named
  rw [show site.plan'.settings.conventions = .stock from rfl, ← same] at run'
  rw [show site.plan.settings.conventions = .stock from rfl] at run
  cases loaded : News.Item.load state.files .stock path sidecar with
  | error cause =>
      rw [loaded] at run run'
      cases run
      cases run'
      exact .ok before
  | ok item =>
      have announced := before.toWalking.announced located named loaded
      rw [loaded] at run run'
      dsimp only at run run'
      rw [Step.modify_apply] at run run'
      exact writeNews_aligned inside announced _ _ (before.noteNews _) result result' run run'

theorem announceAll_aligned (way : String) (sidecars : List String)
    (named : ∀ sidecar ∈ sidecars, IsEntryName sidecar) :
    Step.Aligned (Announcing site mapped done spot)
      (fun _ _ => Announcing site mapped done spot) (Broken site)
      (Step.announceAll site.plan id path way sidecars)
      (Step.announceAll site.plan' id path way sidecars) := by
  induction sidecars with
  | nil => exact Step.Aligned.pure fun _ _ before => before
  | cons sidecar rest ih =>
      refine (announce_aligned inside located way (named sidecar (by simp))).bind fun _ _ => ?_
      exact ih fun other within => named other (List.mem_cons_of_mem _ within)

end

end

end SiteIndex.Build

import SiteIndex.Proofs.Build.Opening
import SiteIndex.Proofs.Build.Wandering
import SiteIndex.Proofs.Template.CursorBack

/-!
What the text of the index template comes to in the rest of a site. The news feed and the report are the
same whatever it is. The site map is the same if all templates hand the cursor of a directory on alike;
it need not be where one of them leaves the cursor on an entry, for the site map then goes on from there.
-/

namespace SiteIndex.Build

open SiteIndex.Listing SiteIndex.FileSystem SiteIndex.Template

/-- Two trees that differ in the text of the index template and in nothing else. -/
structure Revised (root : String) (place : Location) (text text' : String)
    (files files' : FileSystem) : Prop where
  tree : files.IsTree place
  rooted : files.find root = .ok (place, .directory)
  alike : Alike (· = place ++ [".index.html"]) files files'
  read : files.readText (Path.join root ".index.html") = .ok text
  read' : files'.readText (Path.join root ".index.html") = .ok text'
  /-- No news sidecar announces the template, so `news` does not copy it. -/
  unannounced : ∀ content,
    files.node? (place ++ [".index.html.news"]) ≠ some (.file content)

section
variable {site : Site} {files files' : FileSystem}

theorem Revised.opening (revised : Revised site.root site.place site.text site.text' files files')
    (news : ∀ source, files.HoldsText (site.place ++ [".newsfeed.rss"]) source → site.news source) :
    Opening site files (State.start files) (State.start files') where
  alike := revised.alike
  tree := revised.tree
  rooted := revised.rooted
  hides := site.hidesByName_template
  unannounced := revised.unannounced
  index := .none
  feeds kind := by cases kind <;> exact .none
  primed _ absent := nomatch absent
  report := rfl
  extended := .refl files
  arena := rfl
  arena' := rfl
  level _ := rfl
  news := news

/-- Before the walk nothing has been written in any directory. -/
theorem Stage.roaming {state state' : State}
    (stage : Stage site ⟨files, none, .empty⟩ site.Ready (· = site.template) True state state') :
    Roaming site state.sitemap.isSome (fun _ => False) files .empty state state' where
  toTwin := stage.toTwin.mono (fun _ => .inl) (site.hidesByName_veil _ _)
  extended := stage.extended
  arena := stage.arena
  arena' := stage.arena'
  level := stage.level
  mapping := rfl
  within _ none := none.elim

theorem located_root (rooted : files.find site.root = .ok (site.place, .directory)) :
    Located site (fun _ => False) files site.root site.place where
  found := rooted
  below := List.prefix_refl _
  climbs _ below above further :=
    absurd (List.IsPrefix.eq_of_length above (Nat.le_antisymm above.length_le below.length_le)) further
  fresh _ _ := id

theorem buildSite_aligned (rooted : files.find site.root = .ok (site.place, .directory)) :
    Step.Aligned (fun state state' => Opening site files state state' ∧
        state.files.readText (Path.join site.root ".index.html") = .ok site.text ∧
        state'.files.readText (Path.join site.root ".index.html") = .ok site.text')
      (fun report report' state state' => report.shown = report'.shown ∧ Broken site state state')
      (Broken site) (Step.buildSite site.plan) (Step.buildSite site.plan') := by
  unfold Step.buildSite
  refine openSite_aligned.bind fun _ _ => ?_
  intro state state' stage
  refine ((visit_aligned deepestWalk none (located_root rooted)).bind fun _ _ => ?_) state state'
    stage.roaming
  rintro state state' ⟨done, -, roaming⟩
  refine Step.Aligned.bind (finishFeed_aligned rfl) (fun _ _ => ?_) state state' roaming.toStage
  refine (finishFeed_aligned rfl).bind fun _ _ => ?_
  rintro state state' stage _ _ ⟨⟩ ⟨⟩
  exact .ok ⟨stage.report, _, site.veil_sitemap _ _, stage.toTwin⟩

end

section
variable {root : String} {place : Location} {text text' : String} {files files' : FileSystem}
  {now : Int} {fuel fuel' : Nat} {result result' : Except BuildError Report}
  {later later' : FileSystem}

/-- A site that is built with two texts of the index template comes to the same report and the same news
feed, or to the same failure. It comes to the same site map if what the news feed and the two texts do to
the cursor of a directory is the same, wherever the cursor may be handed to them, unset to begin with. -/
theorem build_revised (revised : Revised root place text text' files files')
    (built : build ⟨root, .stock, now, fuel⟩ files = some (result, later))
    (built' : build ⟨root, .stock, now, fuel'⟩ files' = some (result', later')) :
    result.map Report.shown = result'.map Report.shown ∧
      later.node? (place ++ ["newsfeed.rss"]) = later'.node? (place ++ ["newsfeed.rss"]) ∧
      ∀ handed : Cursor → Prop, handed .unset →
        (∀ template : Template, template.AtBody →
          files.HoldsText (place ++ [".newsfeed.rss"]) template.source →
            KeepsCursor handed template) →
        CursorsMeet handed text text' →
        later.node? (place ++ ["sitemap.xml"]) = later'.node? (place ++ ["sitemap.xml"]) := by
  obtain ⟨state, run, rfl⟩ := build_run built
  obtain ⟨state', run', rfl⟩ := build_run built'
  have twins (handed : Cursor → Prop) :
      result.map Report.shown = result'.map Report.shown ∧
        Broken ⟨root, place, now, fuel, fuel', text, text',
          files.HoldsText (place ++ [".newsfeed.rss"]), handed⟩ state state' := by
    have aligned := @buildSite_aligned ⟨root, place, now, fuel, fuel', text, text',
      files.HoldsText (place ++ [".newsfeed.rss"]), handed⟩ files revised.rooted
    cases aligned _ _ ⟨revised.opening fun _ holds => holds, revised.read, revised.read'⟩ _ _ run
      run' with
    | ok whole => exact ⟨congrArg Except.ok whole.1, whole.2⟩
    | error failure broken => exact ⟨rfl, broken⟩
  refine ⟨(twins (fun _ => True)).1, ?_, fun handed unset newsfeed index => ?_⟩
  · obtain ⟨_, hidden, _, twin⟩ := twins (fun _ => True)
    have closed := (twin.closeFeed .sitemap).closeFeed .newsfeed
    exact closed.alike.shown _ closed.newsfeed_shown
  · obtain ⟨_, hidden, shown, twin⟩ := twins handed
    exact ((twin.closeFeed .sitemap).closeFeed .newsfeed).alike.shown _
      (shown ⟨unset, newsfeed, index⟩)

/-- A root with two files, an index that lists them, and a site map that lists them. -/
def twoFiles : FileSystem :=
  ⟨[], [
    (["site"], .directory),
    (["site", ".index.html"], .file "@(files)\x7b@(filename)\x7d".toUTF8),
    (["site", ".sitemap.xml"], .file "@(files)\x7b@(filename);\x7d".toUTF8),
    (["site", "a.txt"], .file .empty),
    (["site", "b.txt"], .file .empty)]⟩

/-- The same root with an index that lists nothing. -/
def twoFilesUnlisted : FileSystem :=
  twoFiles.put ["site", ".index.html"] (.file "none".toUTF8)

theorem revised_twoFiles :
    Revised "site" ["site"] "@(files)\x7b@(filename)\x7d" "none" twoFiles twoFilesUnlisted where
  tree := .of_nodes (by decide) (by decide) (by simp [twoFiles]) _
  rooted := rfl
  alike := (rewritten_put rfl _).alike
  read := by decide +kernel
  read' := by decide +kernel
  unannounced _ announced := by cases announced

/-- An index that lists the files, or none, leaves the site map the same. -/
theorem build_revised_lists :
    ∃ result later result' later',
      build ⟨"site", .stock, 0, 100⟩ twoFiles = some (result, later) ∧
      build ⟨"site", .stock, 0, 100⟩ twoFilesUnlisted = some (result', later') ∧
      result.map Report.shown = result'.map Report.shown ∧
      later.node? ["site", "newsfeed.rss"] = later'.node? ["site", "newsfeed.rss"] ∧
      later.node? ["site", "sitemap.xml"] = later'.node? ["site", "sitemap.xml"] := by
  have builds : (build ⟨"site", .stock, 0, 100⟩ twoFiles).isSome = true := by
    decide +kernel
  have builds' : (build ⟨"site", .stock, 0, 100⟩ twoFilesUnlisted).isSome = true := by
    decide +kernel
  obtain ⟨⟨result, later⟩, built⟩ := Option.isSome_iff_exists.mp builds
  obtain ⟨⟨result', later'⟩, built'⟩ := Option.isSome_iff_exists.mp builds'
  obtain ⟨report, newsfeed, sitemap⟩ := build_revised revised_twoFiles built built'
  refine ⟨_, _, _, _, built, built', report, newsfeed, sitemap (· = .unset) rfl ?_ ?_⟩
  · rintro template - ⟨content, absent, _⟩
    cases absent
  · exact cursorsMeet_of_setsBack (by decide +kernel) (by decide +kernel)

end

end SiteIndex.Build

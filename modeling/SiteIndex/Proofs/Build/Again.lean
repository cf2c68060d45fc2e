import SiteIndex.Proofs.Build.Moments
import SiteIndex.Proofs.Build.Retracing

/-!
Building again what has just been built. The first build leaves outputs behind in the tree that the
second lists and reads from. The feeds are emptied in both before anything is listed, and on the walk
the second build retraces the first.
-/

namespace SiteIndex.Build

open SiteIndex.Listing SiteIndex.FileSystem SiteIndex.Template

/-- Where outputs may be left behind that have not been written anew: any index, and the feeds that wait
to be opened. -/
def Plan.veil (plan : Plan) (place : Location) (files : FileSystem) (waiting : List FeedKind)
    (location : Location) : Prop :=
  plan.Indexes place location ∨ ∃ kind ∈ waiting, location = plan.output place kind ∧
    ∃ source, files.readText (Path.join plan.root (kind.templateIn plan.settings.templates)) = .ok source

section
variable {plan : Plan} {place : Location} {files final later : FileSystem} {waiting : List FeedKind}
  {report : Report}

theorem Plan.spared_veil (plan : Plan) (place : Location) (files : FileSystem)
    (waiting : List FeedKind) :
    Spared plan.settings place (plan.veil place files waiting) (fun _ => False) := by
  have writes (location : Location) (may : plan.veil place files waiting location ∨ False) :
      plan.Writes place location :=
    (may.resolve_right id).imp id fun ⟨kind, _, same, _⟩ => ⟨kind, same⟩
  exact ⟨fun location may => (plan.spared place).named location (.inl (writes location may)),
    fun location may => (plan.spared place).deep location (.inl (writes location may))⟩

theorem Plan.veil_nil (plan : Plan) (place : Location) (files : FileSystem) :
    plan.veil place files [] = plan.Indexes place := by
  funext location
  simp [Plan.veil]

theorem Plan.template_mem (plan : Plan) (kind : FeedKind) :
    kind.templateIn plan.settings.templates ∈ plan.settings.templateNames := by
  cases kind <;> simp [Settings.templateNames, FeedKind.templateIn]

section
variable (valid : plan.settings.defect? = none) (apart : plan.settings.Apart)
  (ground : Ground plan place (plan.Writes place) (fun _ => False) files)
include valid apart ground

/-- No template is where outputs have been left behind. -/
theorem Led.readTemplate {state : State} {ahead : FileSystem}
    (led : Led plan place (plan.veil place files waiting) files final none .empty state ahead)
    {name : String} (within : name ∈ plan.settings.templateNames) :
    ahead.readText (Path.join plan.root name) = state.files.readText (Path.join plan.root name) := by
  have input : name ∈ plan.settings.inputs := List.mem_append_left _ within
  exact readText_root_steady led.2.reworked (plan.spared_veil place files waiting)
    (led.1.tree ground) (led.1.found ground.rooted) (Settings.isName_input valid input)
    fun output => apart.inputs name output input

theorem readIndex_follows :
    Follows plan place (plan.veil place files waiting) files final none .empty
      (Step.readIndex plan) := by
  refine Step.Repeats.along ?_ readIndex_working
  intro state ahead led value later run
  have same := Led.readTemplate valid apart ground led
    (List.mem_cons_self : plan.settings.templates.index ∈ plan.settings.templateNames)
  rw [Step.readIndex_apply] at run ⊢
  cases read : state.files.readText (Path.join plan.root plan.settings.templates.index) with
  | ok source =>
      simp only [same, read] at run ⊢
      cases run
      exact ⟨ahead, rfl, led.2⟩
  | error cause =>
      simp only [same, read] at run ⊢
      cases cause <;> cases run
      exact ⟨ahead, rfl, led.2⟩

omit valid apart ground in
theorem requireTemplate_follows {veil : Location → Prop} :
    Follows plan place veil files final none .empty (Step.requireTemplate plan) := by
  refine Step.Repeats.along ?_ requireTemplate_working
  intro state ahead led value later run
  unfold Step.requireTemplate at run ⊢
  rw [Step.get_apply] at run ⊢
  by_cases missing : (state.index.isNone && state.sitemap.isNone && state.newsfeed.isNone) = true
  · rw [if_pos missing] at run
    cases run
  · rw [if_neg missing] at run ⊢
    cases run
    exact ⟨ahead, rfl, led.2⟩

/-- A feed that is opened is emptied in both, and is the same from then on. -/
theorem openFeed_follows (kind : FeedKind)
    (within : kind.templateIn plan.settings.templates ∈ plan.settings.templateNames)
    (entryName : IsEntryName (kind.outputIn plan.settings.outputs)) :
    Step.Repeats (Led plan place (plan.veil place files (kind :: waiting)) files final none .empty)
      (fun _ => Led plan place (plan.veil place files waiting) files final none .empty)
      (Step.openFeed plan kind (kind.templateIn plan.settings.templates)
        (kind.outputIn plan.settings.outputs)) := by
  refine Step.Repeats.along ?_ (openFeed_working ground kind _ entryName.toIsName (.inr ⟨kind, rfl⟩))
  intro state ahead led value later run
  have same := Led.readTemplate valid apart ground led within
  have first := led.1.readTemplate valid apart ground.tree ground.rooted within
  cases Step.openFeed_cases run with
  | missing read =>
      have missing : Step.OpensFeed plan kind (kind.templateIn plan.settings.templates)
          (kind.outputIn plan.settings.outputs) { state with files := ahead } (.ok ())
            { state with files := ahead } := .missing (same.trans read)
      refine ⟨ahead, missing.run, led.2.narrow fun location veiled => .inl (veiled.imp id ?_)⟩
      rintro ⟨other, member, lies, source, readable⟩
      refine ⟨other, (List.mem_cons.mp member).resolve_left fun here => ?_, lies, source, readable⟩
      rw [here, ← first, read] at readable
      cases readable
  | opened read success =>
      have tree := led.1.tree ground
      have found := led.1.found ground.rooted
      obtain ⟨⟨⟩, vacant⟩ := tree.create_entry found (List.prefix_refl _) entryName success
      have success' := led.2.create_ok tree found (List.prefix_refl _) entryName success
      have made := led.2.created tree entryName place
      have opened := @Step.OpensFeed.opened plan kind _ _ { state with files := ahead } _ _ _
        (same.trans read) success'
      refine ⟨ahead.put (place ++ [kind.outputIn plan.settings.outputs]) (.file .empty),
        opened.run.trans ?_, ?_⟩
      · cases kind <;> rfl
      · dsimp only
        rw [State.setFeed_files]
        refine made.narrow fun location veiled => ?_
        rcases veiled with index | ⟨other, member, lies, readable⟩
        · exact .inl (.inl index)
        · rcases List.mem_cons.mp member with rfl | member
          · obtain rfl : location = place ++ [other.outputIn plan.settings.outputs] := lies
            exact .inr ((node?_putEntry ..).trans (node?_putEntry ..).symm)
          · exact .inl (.inr ⟨other, member, lies, readable⟩)

variable (stock : plan.settings = .stock)
include stock

/-- The feeds are opened and their heads written in both; after that only indexes are left behind. -/
theorem openSite_follows :
    Step.Repeats
      (Led plan place (plan.veil place files [.sitemap, .newsfeed]) files final none .empty)
      (fun _ => Led plan place (plan.Indexes place) files final none .empty)
      (Step.openSite plan) := by
  have conventions : plan.settings.conventions = .stock := by
    rw [stock]
    rfl
  have named (kind : FeedKind) : IsEntryName (kind.outputIn plan.settings.outputs) := by
    rw [stock]
    cases kind <;> decide
  have head (kind : FeedKind) : Follows plan place (plan.Indexes place) files final none .empty
      (Step.writeHead plan kind) :=
    writeHead_follows ground (plan.shown_indexes apart place) conventions
      (plan.hidesByName_indexes stock place) kind
  rw [Step.openSite_eq]
  refine (readIndex_follows valid apart ground).bind fun _ => ?_
  refine (openFeed_follows valid apart ground .sitemap (plan.template_mem .sitemap)
    (named .sitemap)).bind fun _ => ?_
  refine (openFeed_follows valid apart ground .newsfeed (plan.template_mem .newsfeed)
    (named .newsfeed)).bind fun _ => ?_
  rw [plan.veil_nil]
  exact requireTemplate_follows.bind fun _ => (head .sitemap).bind fun _ => head .newsfeed

variable (unannounced : ∀ directory, place <+: directory → files.node?
  (directory ++ [plan.settings.outputs.index ++ plan.settings.conventions.newsSuffix]) = none)
include unannounced

theorem buildSite_follows :
    Step.Repeats
      (Led plan place (plan.veil place files [.sitemap, .newsfeed]) files final none .empty)
      (fun _ => Led plan place (plan.Indexes place) files final none .empty)
      (Step.buildSite plan) := by
  have conventions : plan.settings.conventions = .stock := by
    rw [stock]
    rfl
  have finish (kind : FeedKind) : Follows plan place (plan.Indexes place) files final none .empty
      (Step.finishFeed plan kind) :=
    finishFeed_follows ground (plan.shown_indexes apart place) conventions
      (plan.hidesByName_indexes stock place) kind
  have rooted : files.find (pathOf plan.root []) = .ok (place ++ [], .directory) := by
    rw [List.append_nil]
    exact ground.rooted
  have walk : Follows plan place (plan.Indexes place) files final none .empty
      (Step.visit plan deepestWalk none (pathOf plan.root [])) :=
    visit_follows ground stock apart valid unannounced deepestWalk .root rooted (by simp)
  refine (openSite_follows valid apart ground stock).bind fun _ => walk.bind fun _ =>
    (finish .sitemap).bind fun _ => (finish .newsfeed).bind fun _ => ?_
  rintro state ahead led _ _ ⟨⟩
  exact ⟨ahead, rfl, led⟩

end
end

section
variable {root : String} {place : Location} {now : Int} {fuel : Nat} {files later : FileSystem}
  {report : Report}

/-- A build that has succeeded is repeated by building again at the same time: the report is the same,
and everything stands as it stood. No file must announce an index of the site, for what is announced can
be copied into the news feed, and the index is not there yet when that is done for the first time. -/
theorem build_again (tree : files.IsTree place) (rooted : files.find root = .ok (place, .directory))
    (unannounced : ∀ directory, place <+: directory →
      files.node? (directory ++ ["index.html.news"]) = none)
    (built : build ⟨root, .stock, now, fuel⟩ files = some (.ok report, later)) :
    ∃ again, build ⟨root, .stock, now, fuel⟩ later = some (.ok report, again) ∧
      ∀ location, again.node? location = later.node? location := by
  have valid : Settings.stock.defect? = none := by decide
  have apart : Settings.stock.Apart := ⟨by decide, by decide, by decide, by decide⟩
  let plan : Plan := ⟨root, .stock, now, fuel⟩
  have ground : Ground plan place (plan.Writes place) (fun _ => False) files :=
    plan.ground valid tree rooted
  have touched : ∀ location, later.node? location ≠ files.node? location →
      plan.veil place files [.sitemap, .newsfeed] location := by
    refine build_confined valid tree rooted (fun trail _ => .inl ⟨_, List.prefix_append _ _, rfl⟩)
      (fun state source working => ⟨fun read => ?_, fun read => ?_⟩) built
    · exact .inr ⟨.sitemap, by simp, rfl, source,
        (working.readTemplate valid apart tree rooted (plan.template_mem .sitemap)).symm.trans read⟩
    · exact .inr ⟨.newsfeed, by simp, rfl, source,
        (working.readTemplate valid apart tree rooted (plan.template_mem .newsfeed)).symm.trans read⟩
  have beyond : Ahead place (plan.veil place files [.sitemap, .newsfeed]) later files later :=
    ({ reworked := build_reworked ground (isName_outputIn valid) (fun kind => .inr ⟨kind, rfl⟩) built
       tells := fun _ => .inr rfl } : Ahead place (plan.Writes place) later files later).narrow
      fun location _ => or_iff_not_imp_right.mpr (touched location)
  obtain ⟨state, run, rfl⟩ := build_run built
  obtain ⟨ahead, run', led⟩ := buildSite_follows valid apart ground rfl unannounced
    (State.start files) _ ⟨.start .., beyond⟩ report state run
  have shown := plan.shown_indexes apart place
  obtain ⟨ahead', closed, led⟩ := led.closeFeed ground shown .sitemap
  obtain ⟨again, closed', led⟩ := Led.closeFeed ground shown led .newsfeed
  refine ⟨again, ?_, led.2.arrived⟩
  have builds : (Step.buildSite plan).run.run (State.start
      ((state.closeFeed .sitemap).closeFeed .newsfeed).files) =
        some (.ok report, { state with files := ahead }) := run'
  unfold build
  rw [builds]
  dsimp only
  rw [closed, closed']

/-- A root with a directory in it, in which a file is announced that the news feed copies. -/
def copying : FileSystem :=
  ⟨[], [
    (["site"], .directory),
    (["site", ".index.html"], .file "@(files)\x7b@(filename) \x7d".toUTF8),
    (["site", ".newsfeed.rss"], .file "@(news)".toUTF8),
    (["site", "a"], .directory),
    (["site", "a", "x"], .file "hello".toUTF8),
    (["site", "a", "x.news"], .file "2024-05-17\nHello\n".toUTF8)]⟩

theorem build_again_copying :
    ∃ report later again, build ⟨"site", .stock, 0, 100⟩ copying = some (.ok report, later) ∧
      later.readText "site/newsfeed.rss" = .ok "hello" ∧
      build ⟨"site", .stock, 0, 100⟩ later = some (.ok report, again) ∧
      ∀ location, again.node? location = later.node? location := by
  have builds : ((build ⟨"site", .stock, 0, 100⟩ copying).map fun (result, later) =>
      (result.isOk, later.readText "site/newsfeed.rss")) = some (true, .ok "hello") := by
    decide +kernel
  have plain : ∀ entry ∈ copying.nodes, entry.1.getLast? ≠ some "index.html.news" := by decide
  obtain ⟨⟨result, later⟩, built, ended⟩ := Option.map_eq_some_iff.mp builds
  obtain ⟨succeeded, stands⟩ := Prod.mk.inj ended
  cases result with
  | error failure => cases succeeded
  | ok report =>
      obtain ⟨again, rebuilt, same⟩ :=
        build_again (.of_nodes (by decide) (by decide) (by simp [copying]) ["site"]) rfl
          (fun directory _ => by
            cases stands : copying.node? (directory ++ ["index.html.news"]) with
            | none => rfl
            | some node =>
                exact absurd (List.getLast?_concat ..)
                  (plain _ (mem_nodes_of_node? (by simp) stands)))
          built
      exact ⟨report, later, again, built, stands, rebuilt, same⟩

/-- A root in which the index itself is announced. -/
def announcingIndex : FileSystem :=
  ⟨[], [
    (["site"], .directory),
    (["site", ".index.html"], .file "x".toUTF8),
    (["site", ".newsfeed.rss"], .file "@(news)".toUTF8),
    (["site", "index.html.news"], .file "2024-01-01\nT\n".toUTF8)]⟩

/-- The first build finds no index to copy, and the second finds that of the first. -/
example :
    ((build ⟨"site", .stock, 0, 100⟩ announcingIndex).bind fun (_, later) =>
      (build ⟨"site", .stock, 0, 100⟩ later).map fun (_, again) =>
        (later.readText "site/newsfeed.rss", again.readText "site/newsfeed.rss")) =
      some (.ok "", .ok "x") := by
  decide +kernel

end

end SiteIndex.Build

import SiteIndex.Proofs.Build.Tour

/-!
A whole build at work: the feeds are opened, the directories visited, the feeds finished. Only opening
can fail, and whatever comes of it, no files have been changed but those that are to be written.
-/

namespace SiteIndex.Build

open SiteIndex.Listing SiteIndex.FileSystem SiteIndex.Template

section
variable {plan : Plan} {place : Location} {made filled : Location → Prop} {origin : FileSystem}
  {base : Arena} {state : State}

/-- At work before and after, also if it fails. -/
abbrev Stays (plan : Plan) (place : Location) (made filled : Location → Prop) (origin : FileSystem)
    (base : Arena) {α : Type} (step : Step α) : Prop :=
  Step.Leads (Working plan place made filled origin none base)
    (fun _ => Working plan place made filled origin none base)
    (Working plan place made filled origin none base) step

/-- A build that starts on the files as they are. -/
theorem Working.start (plan : Plan) (place : Location) (made filled : Location → Prop)
    (files : FileSystem) :
    Working plan place made filled files none .empty (State.start files) where
  reworked := .refl place made filled files
  feeds kind _ opened := by cases kind <;> cases opened
  still := rfl

theorem readIndex_working : Stays plan place made filled origin base (Step.readIndex plan) := by
  intro state working result later run
  rw [Step.readIndex_apply] at run
  split at run <;> cases run
  · exact working.touched working.still
  · exact working
  · exact working

theorem requireTemplate_working :
    Stays plan place made filled origin base (Step.requireTemplate plan) := by
  refine Step.Leads.read fun state working => ?_
  split
  · exact Step.Leads.throw fun _ same => same ▸ working
  · exact Step.Leads.pure fun _ same => same ▸ working

section
variable (ground : Ground plan place made filled origin)
include ground

/-- A feed is opened where its file may be made. -/
theorem openFeed_working (kind : FeedKind) (templateName : String)
    (named : Path.IsName (kind.outputIn plan.settings.outputs))
    (may : made (plan.output place kind)) :
    Stays plan place made filled origin base
      (Step.openFeed plan kind templateName (kind.outputIn plan.settings.outputs)) := by
  intro state working result later run
  cases Step.openFeed_cases run with
  | missing => exact working
  | unreadable => exact working
  | refused => exact working
  | opened read success =>
      have tree := working.tree ground
      obtain ⟨entryName, ⟨⟩, vacant⟩ :=
        tree.create_name (working.found ground.rooted) (List.prefix_refl _) named success
      have worked := working.worked (.of_created tree (List.prefix_refl _) entryName vacant may)
      refine worked.setFeed kind _ ?_
      rintro _ ⟨⟩
      exact ⟨rfl, .empty, node?_putEntry ..⟩

theorem writeHead_working (kind : FeedKind) :
    Keeps plan place made filled origin none base (Step.writeHead plan kind) :=
  .writeHead (expandFeed_working ground kind none none false)

theorem openSite_working (named : ∀ kind : FeedKind, Path.IsName (kind.outputIn plan.settings.outputs))
    (may : ∀ kind, made (plan.output place kind)) :
    Stays plan place made filled origin base (Step.openSite plan) := by
  rw [Step.openSite_eq]
  exact readIndex_working.bind fun _ =>
    (openFeed_working ground .sitemap _ (named FeedKind.sitemap) (may FeedKind.sitemap)).bind fun _ =>
      (openFeed_working ground .newsfeed _ (named FeedKind.newsfeed) (may FeedKind.newsfeed)).bind
        fun _ =>
        requireTemplate_working.bind fun _ =>
          (writeHead_working ground .sitemap).safely.bind fun _ =>
            (writeHead_working ground .newsfeed).safely

/-- What waits for the file of an open feed can be written to it. -/
theorem Working.flushed (working : Working plan place made filled origin none base state)
    {kind : FeedKind} {feed : Feed} (opened : state.feed? kind = some feed) :
    ∃ files out, feed.out.flush state.files = (.ok (), files, out) ∧
      Reworked place made filled state.files files := by
  obtain ⟨lies, content, holds⟩ := working.feeds kind feed opened
  obtain ⟨out, content', _, flushed⟩ := feed.out.flush_file content
  obtain ⟨files, passed, rewritten⟩ := flushed state.files holds
  exact ⟨files, out, passed, .of_rewritten rewritten holds (lies ▸ ground.feed kind)⟩

theorem sealFeed_working (kind : FeedKind) :
    Keeps plan place made filled origin none base (Step.sealFeed kind) := by
  intro state working result later run
  cases opened : state.feed? kind with
  | none =>
      rw [sealFeed_closed opened] at run
      cases run
      exact working
  | some feed =>
      obtain ⟨files, out, passed, reworked⟩ := working.flushed ground opened
      rw [sealFeed_opened opened passed] at run
      cases run
      have closed := (working.worked reworked).setFeed kind none fun _ same => nomatch same
      cases kind <;> exact closed.touched closed.still

theorem finishFeed_working (kind : FeedKind) :
    Keeps plan place made filled origin none base (Step.finishFeed plan kind) :=
  .finishFeed (expandFeed_working ground kind none none) (sealFeed_working ground kind)

theorem Working.closeFeed (working : Working plan place made filled origin none base state)
    (kind : FeedKind) : Working plan place made filled origin none base (state.closeFeed kind) := by
  unfold State.closeFeed
  cases opened : state.feed? kind with
  | none => exact working
  | some feed =>
      obtain ⟨files, out, passed, reworked⟩ := working.flushed ground opened
      simp only [passed]
      have closed := (working.worked reworked).setFeed kind none fun _ same => nomatch same
      cases kind <;> exact closed

/-- The walk from the root on. -/
theorem visit_working (levels : Nat) :
    Keeps plan place made filled origin none .empty (Step.visit plan levels none plan.root) := by
  have accompanies : Accompanies plan place made filled origin (fun _ _ => True)
      (fun _ _ => True) :=
    { moved := fun _ _ => trivial
      listed := fun _ _ _ _ => trivial
      pages := by intros; exact .anyway _ }
  have rooted : origin.find (pathOf plan.root []) = .ok (place ++ [], .directory) := by
    rw [List.append_nil]
    exact ground.rooted
  have toured : Stretch plan place made filled origin (fun _ _ => True) .empty []
      (Toured (fun _ _ => True) levels []) (Step.visit plan levels none plan.root) :=
    visit_tours accompanies ground levels .root rooted
  exact (toured.given fun _ working => ⟨trivial, working⟩).leaves
    (fun _ _ ⟨_, _, _, working⟩ => working) fun _ => id

theorem buildSite_working (named : ∀ kind : FeedKind, Path.IsName (kind.outputIn plan.settings.outputs))
    (may : ∀ kind, made (plan.output place kind)) :
    Stays plan place made filled origin .empty (Step.buildSite plan) := by
  refine (openSite_working ground named may).bind fun _ => ?_
  refine (visit_working ground deepestWalk).safely.bind fun _ => ?_
  refine (finishFeed_working ground .sitemap).safely.bind fun _ => ?_
  refine (finishFeed_working ground .newsfeed).safely.bind fun _ => ?_
  exact Step.Leads.read fun state working => Step.Leads.pure fun _ same => same ▸ working

/-- Whatever comes of a build, it has only written what it may. -/
theorem build_reworked (named : ∀ kind : FeedKind, Path.IsName (kind.outputIn plan.settings.outputs))
    (may : ∀ kind, made (plan.output place kind)) {later : FileSystem}
    {result : Except BuildError Report} (built : build plan origin = some (result, later)) :
    Reworked place made filled origin later := by
  obtain ⟨state, run, rfl⟩ := build_run built
  have reached := buildSite_working ground named may _ (.start plan place made filled origin) _ _ run
  have working : Working plan place made filled origin none .empty state := by
    cases result <;> exact reached
  exact ((working.closeFeed ground .sitemap).closeFeed ground .newsfeed).reworked

end
end

end SiteIndex.Build

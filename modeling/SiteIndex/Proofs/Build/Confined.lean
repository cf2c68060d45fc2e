import SiteIndex.Proofs.Build.Whole

/-!
What one step of a build may change. An expansion writes to the file that it has been given and to no
other, so that a feed which is not open, and the index of a directory which is not being written, are as
they were.
-/

namespace SiteIndex.Build

open SiteIndex.Listing SiteIndex.FileSystem SiteIndex.Template

/-- Nothing has changed since `origin` but what may, and what feeds are open may be written. -/
structure Confined (plan : Plan) (place : Location) (may : Location → Prop) (origin : FileSystem)
    (state : State) : Prop where
  changed : ∀ location, state.files.node? location ≠ origin.node? location → may location
  feeds : ∀ kind feed, state.feed? kind = some feed → may (plan.output place kind)

section
variable {plan : Plan} {place : Location} {may : Location → Prop} {made filled : Location → Prop}
  {origin : FileSystem} {spot : Option Nat} {base : Arena} {state : State} {kind : FeedKind}

namespace Confined

theorem start (plan : Plan) (place : Location) (may : Location → Prop) (files : FileSystem) :
    Confined plan place may files (State.start files) where
  changed _ differs := absurd rfl differs
  feeds kind _ opened := by cases kind <;> cases opened

variable (confined : Confined plan place may origin state)
include confined

theorem touched {arena : Arena} {index : Option Template} {report : Report} :
    Confined plan place may origin { state with arena, index, report } :=
  ⟨confined.changed, fun kind feed opened =>
    confined.feeds kind feed (by cases kind <;> exact opened)⟩

/-- Only what stands at one location has changed. -/
theorem written {files : FileSystem} {location : Location} (here : may location)
    (others : ∀ other, other ≠ location → files.node? other = state.files.node? other) :
    Confined plan place may origin { state with files } where
  changed other differs := by
    by_cases same : other = location
    · exact same ▸ here
    · rw [others other same] at differs
      exact confined.changed other differs
  feeds kind feed opened := confined.feeds kind feed (by cases kind <;> exact opened)

theorem setFeed (kind : FeedKind) (next : Option Feed)
    (opened : ∀ feed, next = some feed → may (plan.output place kind)) :
    Confined plan place may origin (state.setFeed kind next) where
  changed location differs := confined.changed location (by simpa using differs)
  feeds other feed found := by
    rw [State.feed?_setFeed] at found
    split at found
    · next same => exact same ▸ opened feed found
    · exact confined.feeds other feed found

end Confined

/-- At work, and confined. -/
abbrev Within (plan : Plan) (place : Location) (may made filled : Location → Prop)
    (origin : FileSystem) (spot : Option Nat) (base : Arena) (state : State) : Prop :=
  Confined plan place may origin state ∧ Working plan place made filled origin spot base state

/-- Confined before and after, where nothing fails. -/
abbrev Confines (plan : Plan) (place : Location) (may made filled : Location → Prop)
    (origin : FileSystem) (spot : Option Nat) (base : Arena) {α : Type} (step : Step α) : Prop :=
  Step.Leads (Within plan place may made filled origin spot base)
    (fun _ => Within plan place may made filled origin spot base) (fun _ => False) step

section
variable (ground : Ground plan place made filled origin)
include ground

theorem expandFeed_confined (kind : FeedKind) (spot : Option Nat) (news : Option News.Item)
    (suppressed : Bool) :
    Confines plan place may made filled origin spot base
      (Step.expandFeed plan kind spot news suppressed) := by
  refine Step.Leads.along ?_ (expandFeed_working ground kind spot news suppressed)
  rintro state ⟨confined, working⟩ result later run
  cases opened : state.feed? kind with
  | none =>
      rw [Step.expandFeed_closed opened] at run
      cases run
      exact confined
  | some feed =>
      obtain ⟨lies, content, holds⟩ := working.feeds kind feed opened
      obtain ⟨ending, after, scene, ended, rfl, rfl⟩ := Step.expandFeed_ok opened holds run
      obtain ⟨written, rewritten⟩ := (expand_leaves holds ended).2.rewritten
      have here := confined.feeds kind feed opened
      have written := confined.written here fun other apart =>
        (rewritten.alike.shown other (lies ▸ apart)).symm
      exact written.touched.setFeed kind _ fun _ _ => here

theorem writeBody_confined (kind : FeedKind) (id : Nat) (news : Option News.Item) :
    Confines plan place may made filled origin (some id) base
      (Step.writeBody plan kind id news) := by
  refine Step.Leads.along ?_ (writeBody_working ground kind id news)
  refine ((expandFeed_confined ground kind (some id) news false).safely.bind fun _ => ?_)
  refine Step.Leads.modify fun state ⟨confined, _⟩ => confined.setFeed kind _ fun feed same => ?_
  obtain ⟨before, opened, -⟩ := Option.map_eq_some_iff.mp same
  exact confined.feeds kind before opened

theorem announce_confined (id : Nat) (path way sidecar : String) :
    Confines plan place may made filled origin (some id) base
      (Step.announce plan id path way sidecar) := by
  refine Step.Leads.read fun state ⟨confined, working⟩ => ?_
  split
  · exact Step.Leads.pure fun _ same => same ▸ ⟨confined, working⟩
  · refine Step.Leads.bind (Step.Leads.modify fun _ same => ?_) fun _ =>
      writeBody_confined ground .newsfeed id _
    subst same
    exact ⟨confined.touched, working.touched working.still⟩

theorem announceAll_confined (id : Nat) (path way : String) (sidecars : List String) :
    Confines plan place may made filled origin (some id) base
      (Step.announceAll plan id path way sidecars) :=
  .announceAll sidecars (announce_confined ground id path way)

theorem writeIndex_confined (id : Nat) {path : String} {directory : Location}
    (found : origin.find path = .ok (directory, .directory)) (below : place <+: directory)
    (here : may (directory ++ [plan.settings.outputs.index])) :
    Confines plan place may made filled origin (some id) base (Step.writeIndex plan id path) := by
  refine Step.Leads.along ?_ (writeIndex_working ground id found below)
  rintro state ⟨confined, working⟩ result later run
  obtain ⟨⟨written, rfl⟩, indexed⟩ := working.indexed ground found below run
  have written := confined.written here fun other apart =>
    indexed.reworked.unchanged apart not_false
  exact ⟨written.changed, fun kind feed opened =>
    confined.feeds kind feed (indexed.feeds kind ▸ opened)⟩

theorem writePages_confined {id : Nat} {listing : Snapshot} (seen : base.get? id = some listing)
    {path : String} {directory : Location}
    (found : origin.find path = .ok (directory, .directory)) (below : place <+: directory)
    (here : may (directory ++ [plan.settings.outputs.index])) (way : String)
    (sidecars : List String) :
    Step.Leads (Within plan place may made filled origin (some id) base)
      (fun count later => Within plan place may made filled origin none base later ∧
        count = listing.entries.length)
      (fun _ => False) (Step.writePages plan id path way sidecars) := by
  refine (announceAll_confined ground id path way sidecars).bind fun _ =>
    (writeIndex_confined ground id found below here).bind fun index =>
      (writeBody_confined ground .sitemap id none).bind fun _ => ?_
  have noted : Step.Leads (Within plan place may made filled origin (some id) base)
      (fun _ => Confined plan place may origin) (fun _ => True)
      (Step.noteDirectory id path way index) := by
    rintro state ⟨confined, _⟩ result later run
    cases run
    exact confined.touched
  exact (noted.along (noteDirectory_working seen path way index)).leaves
    (fun _ _ ⟨confined, working, count⟩ => ⟨⟨confined, working⟩, count⟩) fun _ => False.elim

theorem Confined.flushed (confined : Confined plan place may origin state)
    (working : Working plan place made filled origin none base state) {feed : Feed}
    (opened : state.feed? kind = some feed) :
    ∃ files out, feed.out.flush state.files = (.ok (), files, out) ∧
      Within plan place may made filled origin none base { state with files } := by
  obtain ⟨lies, content, holds⟩ := working.feeds kind feed opened
  obtain ⟨out, content', _, flushed⟩ := feed.out.flush_file content
  obtain ⟨files, passed, rewritten⟩ := flushed state.files holds
  refine ⟨files, out, passed, ?_,
    working.worked (.of_rewritten rewritten holds (lies ▸ ground.feed kind))⟩
  exact confined.written (confined.feeds kind feed opened) fun other apart =>
    (rewritten.alike.shown other (lies ▸ apart)).symm

theorem sealFeed_confined (kind : FeedKind) :
    Confines plan place may made filled origin none base (Step.sealFeed kind) := by
  rintro state ⟨confined, working⟩ result later run
  cases opened : state.feed? kind with
  | none =>
      rw [sealFeed_closed opened] at run
      cases run
      exact ⟨confined, working⟩
  | some feed =>
      obtain ⟨files, out, passed, confined, working⟩ := confined.flushed ground working opened
      rw [sealFeed_opened opened passed] at run
      cases run
      have closed := working.setFeed kind none fun _ same => nomatch same
      have closed' := confined.setFeed kind none fun _ same => nomatch same
      cases kind <;> exact ⟨closed'.touched, closed.touched closed.still⟩

theorem finishFeed_confined (kind : FeedKind) :
    Confines plan place may made filled origin none base (Step.finishFeed plan kind) :=
  .finishFeed (expandFeed_confined ground kind none none) (sealFeed_confined ground kind)

theorem Confined.closeFeed
    (within : Within plan place may made filled origin none base state) (kind : FeedKind) :
    Within plan place may made filled origin none base (state.closeFeed kind) := by
  unfold State.closeFeed
  cases opened : state.feed? kind with
  | none => exact within
  | some feed =>
      obtain ⟨files, out, passed, confined, working⟩ := within.1.flushed ground within.2 opened
      simp only [passed]
      have closed := working.setFeed kind none fun _ same => nomatch same
      have closed' := confined.setFeed kind none fun _ same => nomatch same
      cases kind <;> exact ⟨closed', closed⟩

/-- A feed is opened where its file may be written. -/
theorem openFeed_confined (kind : FeedKind) (templateName : String)
    (named : Path.IsName (kind.outputIn plan.settings.outputs)) (may' : made (plan.output place kind))
    (here : ∀ state source, Working plan place made filled origin none base state →
      state.files.readText (Path.join plan.root templateName) = .ok source →
        may (plan.output place kind)) :
    Step.Leads (Within plan place may made filled origin none base)
      (fun _ => Within plan place may made filled origin none base)
      (Within plan place may made filled origin none base)
      (Step.openFeed plan kind templateName (kind.outputIn plan.settings.outputs)) := by
  have opens : Step.Leads (Within plan place may made filled origin none base)
      (fun _ => Confined plan place may origin) (Confined plan place may origin)
      (Step.openFeed plan kind templateName (kind.outputIn plan.settings.outputs)) := by
    rintro state ⟨confined, working⟩ result later run
    cases Step.openFeed_cases run with
    | missing => exact confined
    | unreadable => exact confined
    | refused => exact confined
    | opened read success =>
        have here := here state _ working read
        obtain ⟨entryName, ⟨⟩, vacant⟩ := (working.tree ground).create_name
          (working.found ground.rooted) (List.prefix_refl _) named success
        have written : Confined plan place may origin
            { state with files := state.files.put (plan.output place kind) (.file .empty) } :=
          confined.written here fun other apart => by
            rw [node?_put _ _ _ _ (by simp [Plan.output]), if_neg apart]
        exact written.setFeed kind _ fun _ _ => here
  exact opens.and ((openFeed_working ground kind templateName named may').given fun _ both => both.2)

/-- Nothing that may not be written is, when the feeds are opened. -/
theorem openSite_confined (named : ∀ kind : FeedKind, Path.IsName (kind.outputIn plan.settings.outputs))
    (may' : ∀ kind, made (plan.output place kind))
    (here : ∀ state source, Working plan place made filled origin none base state →
      (state.files.readText (Path.join plan.root plan.settings.templates.sitemap) = .ok source →
        may (plan.output place .sitemap)) ∧
      (state.files.readText (Path.join plan.root plan.settings.templates.newsfeed) = .ok source →
        may (plan.output place .newsfeed))) :
    Step.Leads (Within plan place may made filled origin none base)
      (fun _ => Within plan place may made filled origin none base)
      (Within plan place may made filled origin none base) (Step.openSite plan) := by
  have reads : Step.Leads (Within plan place may made filled origin none base)
      (fun _ => Confined plan place may origin) (Confined plan place may origin)
      (Step.readIndex plan) := by
    rintro state ⟨confined, working⟩ result later run
    rw [Step.readIndex_apply] at run
    split at run <;> cases run
    · exact confined.touched
    · exact confined
    · exact confined
  have requires : Step.Leads (Within plan place may made filled origin none base)
      (fun _ => Confined plan place may origin) (Confined plan place may origin)
      (Step.requireTemplate plan) := by
    refine Step.Leads.read fun state within => ?_
    split
    · exact Step.Leads.throw fun _ same => same ▸ within.1
    · exact Step.Leads.pure fun _ same => same ▸ within.1
  have head (kind : FeedKind) : Confines plan place may made filled origin none base
      (Step.writeHead plan kind) :=
    .writeHead (expandFeed_confined ground kind none none false)
  rw [Step.openSite_eq]
  refine (reads.and (readIndex_working.given fun _ both => both.2)).bind fun _ => ?_
  refine (openFeed_confined ground .sitemap _ (named .sitemap) (may' .sitemap)
    fun state source working => (here state source working).1).bind fun _ => ?_
  refine (openFeed_confined ground .newsfeed _ (named .newsfeed) (may' .newsfeed)
    fun state source working => (here state source working).2).bind fun _ => ?_
  refine (requires.and (requireTemplate_working.given fun _ both => both.2)).bind fun _ => ?_
  exact (head .sitemap).safely.bind fun _ => (head .newsfeed).safely

end
end

end SiteIndex.Build

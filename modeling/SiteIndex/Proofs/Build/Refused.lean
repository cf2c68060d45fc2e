import SiteIndex.Proofs.Build.Telling
import SiteIndex.Proofs.FileSystem.Failures
import SiteIndex.Proofs.Template.Failing

/-!
Builds that come to nothing for their templates: there is none, or one that is there cannot be read. They
leave all files as they were but for one. The site map is opened, and so emptied, before the template of the
news feed is read.
-/

namespace SiteIndex.Build

open SiteIndex.FileSystem SiteIndex.Listing

namespace Step

variable {α β : Type} {fits : BuildError → Prop}

def FailsOnly (fits : BuildError → Prop) (step : Step α) : Prop :=
  ∀ state failure later, step state = some (.error failure, later) → fits failure

theorem FailsOnly.bind {step : Step α} {next : α → Step β} (first : step.FailsOnly fits)
    (second : ∀ value, (next value).FailsOnly fits) : (step >>= next).FailsOnly fits := by
  intro state failure later run
  obtain ⟨_, failed, ⟨⟩⟩ | ⟨_, between, -, onward⟩ := bind_run run
  · exact first _ _ _ failed
  · exact second _ _ _ _ onward

theorem FailsOnly.read {next : State → Step β} (each : ∀ state, (next state).FailsOnly fits) :
    (get >>= next).FailsOnly fits :=
  fun state failure later run => each state state failure later run

theorem FailsOnly.throw {failure : BuildError} (fit : fits failure) :
    (MonadExcept.throw failure : Step α).FailsOnly fits := by
  rintro _ _ _ ⟨⟩
  exact fit

theorem FailsOnly.pure (value : α) : (Pure.pure value : Step α).FailsOnly fits := by
  rintro _ _ _ ⟨⟩

theorem FailsOnly.set (left : State) : (MonadStateOf.set left : Step PUnit).FailsOnly fits := by
  rintro _ _ _ ⟨⟩

theorem FailsOnly.modify (change : State → State) :
    (MonadState.modifyGet fun state => ((), change state) : Step Unit).FailsOnly fits := by
  rintro _ _ _ ⟨⟩

theorem FailsOnly.ifDivided {kind : FeedKind} {step : Step Unit} (only : step.FailsOnly fits) :
    (Step.ifDivided kind step).FailsOnly fits := by
  refine .read fun state => ?_
  split
  · split
    · exact only
    · exact .pure _
  · exact .pure _

end Step

/-- Not for want of a text. -/
def BuildError.Legible (failure : BuildError) : Prop :=
  ∀ path, failure ≠ .inaccessible path .invalidText

theorem BuildError.legible_inaccessible {path : String} {cause : FileError}
    (legible : cause ≠ .invalidText) : (inaccessible path cause).Legible := by
  rintro _ ⟨⟩
  exact legible rfl

section
variable (plan : Plan)

theorem expandFeed_legible (kind : FeedKind) (directory : Option Nat) (news : Option News.Item)
    (suppressed : Bool) :
    (Step.expandFeed plan kind directory news suppressed).FailsOnly BuildError.Legible := by
  intro state failure later run
  cases Step.expandFeed_cases run with
  | failed opened ended =>
    have writes : ∀ bytes out cause later,
        FileWriter.sink.write bytes out = (.error cause, later) → cause ≠ .invalidText :=
      fun _ _ _ _ failed => writer_legible (congrArg Prod.fst failed)
    exact BuildError.legible_inaccessible
      (Template.expand_failsOnly (Template.sceneHost_failsOnly writes) ended)

theorem writeBody_legible (kind : FeedKind) (id : Nat) (news : Option News.Item) :
    (Step.writeBody plan kind id news).FailsOnly BuildError.Legible :=
  (expandFeed_legible plan kind (some id) news false).bind fun _ => .modify _

theorem announceAll_legible (id : Nat) (directory way : String) (sidecars : List String) :
    (Step.announceAll plan id directory way sidecars).FailsOnly BuildError.Legible := by
  induction sidecars with
  | nil => exact .pure _
  | cons sidecar rest ih =>
    refine Step.FailsOnly.bind (.read fun state => ?_) fun _ => ih
    split
    · exact .pure _
    · exact Step.FailsOnly.bind (.modify _) fun _ => writeBody_legible plan .newsfeed id _

/-- An index that cannot be written is no failure. -/
theorem writeIndex_legible (id : Nat) (directory : String) :
    (Step.writeIndex plan id directory).FailsOnly BuildError.Legible := by
  intro state failure later run
  obtain ⟨⟨⟩, -⟩ | ⟨template, created, opened, success⟩ := Step.writeIndex_cases run
  obtain ⟨_, _, _, _, ⟨_, _, ⟨⟩, _⟩ | ⟨_, _, ⟨⟩, _⟩⟩ := Step.writeIndex_expands opened success run

theorem writeDirectory_legible (id : Nat) (directory : String) (sidecars : List String) :
    (Step.writeDirectory plan id directory sidecars).FailsOnly BuildError.Legible := by
  intro state failure later run
  rw [Step.writeDirectory_apply] at run
  have pages : (Step.writePages plan id directory (state.arena.pathString id).1 sidecars).FailsOnly
      BuildError.Legible :=
    (announceAll_legible plan id directory _ sidecars).bind fun _ =>
      (writeIndex_legible plan id directory).bind fun _ =>
        (writeBody_legible plan .sitemap id none).bind fun _ =>
          .read fun state => Step.FailsOnly.bind (.set _) fun _ => .pure _
  exact pages _ _ _ run

theorem visitChildren_legible {visit : String → Step Unit}
    (each : ∀ name, (visit name).FailsOnly BuildError.Legible) (id limit : Nat) :
    (Step.visitChildren visit id limit).FailsOnly BuildError.Legible := by
  induction limit with
  | zero => exact .pure _
  | succ limit ih =>
    refine .read fun state => Step.FailsOnly.bind (.modify _) fun _ => ?_
    split
    · exact .pure _
    · exact (each _).bind fun _ => ih

theorem visit_legible (levels : Nat) (parent : Option Nat) (path : String) :
    (Step.visit plan levels parent path).FailsOnly BuildError.Legible := by
  induction levels generalizing parent path with
  | zero => exact .pure _
  | succ levels ih =>
    intro state failure later run
    cases entered : state.arena.visit state.files plan.settings parent path with
    | error cause =>
      rw [Step.visit_refused entered] at run
      split at run
      · exact Step.FailsOnly.pure _ _ _ _ run
      · exact Step.FailsOnly.throw nofun _ _ _ run
    | ok within =>
      rw [Step.visit_entered entered] at run
      have explored : (Step.explore plan levels within.2 path
          (Listing.newsSidecars state.files plan.settings path)).FailsOnly BuildError.Legible :=
        (writeDirectory_legible plan _ path _).bind fun _ =>
          (visitChildren_legible (fun name => ih _ _) _ _).bind fun _ => .modify _
      exact explored _ _ _ run

theorem sealFeed_legible (kind : FeedKind) :
    (Step.sealFeed kind).FailsOnly BuildError.Legible := by
  intro state failure later run
  cases sealFeed_cases run with
  | failed opened flushed =>
    exact BuildError.legible_inaccessible (flush_legible (congrArg Prod.fst flushed))

theorem writeHead_legible (kind : FeedKind) :
    (Step.writeHead plan kind).FailsOnly BuildError.Legible := by
  rw [Step.writeHead_eq]
  exact (expandFeed_legible plan kind none none false).ifDivided

theorem finishFeed_legible (kind : FeedKind) :
    (Step.finishFeed plan kind).FailsOnly BuildError.Legible := by
  rw [Step.finishFeed_eq]
  exact ((expandFeed_legible plan kind none none true).bind fun _ =>
    expandFeed_legible plan kind none none false).ifDivided.bind fun _ => sealFeed_legible kind

/-- Everything behind the opening of the feeds. -/
def Step.onward (plan : Plan) : Step Report := do
  requireTemplate plan
  writeHead plan .sitemap
  writeHead plan .newsfeed
  visit plan deepestWalk none plan.root
  finishFeed plan .sitemap
  finishFeed plan .newsfeed
  return (← get).report

theorem Step.buildSite_eq : Step.buildSite plan = (do
    readIndex plan
    openFeed plan .sitemap plan.settings.templates.sitemap plan.settings.outputs.sitemap
    openFeed plan .newsfeed plan.settings.templates.newsfeed plan.settings.outputs.newsfeed
    onward plan) := by
  unfold Step.buildSite Step.onward
  rw [Step.openSite_eq]
  simp only [bind_assoc]

theorem onward_legible : (Step.onward plan).FailsOnly BuildError.Legible := by
  have required : (Step.requireTemplate plan).FailsOnly BuildError.Legible := by
    refine .read fun state => ?_
    split
    · exact .throw nofun
    · exact .pure _
  exact required.bind fun _ => (writeHead_legible plan .sitemap).bind fun _ =>
    (writeHead_legible plan .newsfeed).bind fun _ => (visit_legible plan _ _ _).bind fun _ =>
      (finishFeed_legible plan .sitemap).bind fun _ =>
        (finishFeed_legible plan .newsfeed).bind fun _ => .read fun _ => .pure _

end

/-- A build can come to nothing for its templates: there is none, or one that is there cannot be read. -/
inductive Plan.Refused (plan : Plan) (files : FileSystem) : BuildError → Prop
  | noTemplates
      (absent : ∀ name ∈ plan.settings.templateNames,
        files.readText (Path.join plan.root name) = .error .notFound) :
      Refused plan files (.noTemplates plan.root plan.settings.templates)
  | unreadable {name : String} {cause : FileError} (within : name ∈ plan.settings.templateNames)
      (unreadable : files.readText (Path.join plan.root name) = .error cause)
      (present : cause ≠ .notFound) :
      Refused plan files (.inaccessible (Path.join plan.root name) cause)

/-- The file that is emptied for the site map: the index template does not stand in the way, the template of
the site map can be read, and the file can be created. -/
def Plan.Empties (plan : Plan) (files : FileSystem) (location : Location) : Prop :=
  Readable files (Path.join plan.root plan.settings.templates.index) ∧
    (∃ text, files.readText (Path.join plan.root plan.settings.templates.sitemap) = .ok text) ∧
    ∃ created file, files.create (Path.join plan.root plan.settings.outputs.sitemap) =
      .ok (created, file) ∧ file.location = location

section
variable {plan : Plan} {files later : FileSystem} {failure : BuildError}

/-- The index template stands in the way, or it is kept if it is there. -/
theorem readIndex_start (plan : Plan) (files : FileSystem) :
    (¬ Readable files (Path.join plan.root plan.settings.templates.index) ∧
      ∃ failure, Step.readIndex plan (State.start files) =
        some (.error failure, State.start files)) ∨
    Readable files (Path.join plan.root plan.settings.templates.index) ∧
      ∃ state, Step.readIndex plan (State.start files) = some (.ok (), state) ∧
        state.files = files ∧ (∀ kind, state.feed? kind = none) ∧
        (files.readText (Path.join plan.root plan.settings.templates.index) = .error .notFound →
          state.index = none) := by
  have closed (index : Option Template) (kind : FeedKind) :
      ({ State.start files with index } : State).feed? kind = none := by
    cases kind <;> rfl
  have same : (State.start files).files = files := rfl
  rw [Step.readIndex_apply, same]
  cases read : files.readText (Path.join plan.root plan.settings.templates.index) with
  | ok text =>
    exact .inr ⟨fun _ failed => (nomatch read.symm.trans failed), _, rfl, rfl, closed _, nofun⟩
  | error cause =>
    by_cases absent : cause = .notFound
    · subst absent
      exact .inr ⟨fun cause failed => (Except.error.inj (read.symm.trans failed)).symm, _, rfl, rfl,
        closed none, fun _ => rfl⟩
    · refine .inl ⟨fun readable => absent (readable cause read), ?_⟩
      cases cause <;> first | exact ⟨_, rfl⟩ | exact (absent rfl).elim

/-- A feed into which nothing has been written changes no file when it is closed. -/
theorem State.closeFeed_idle {state : State} {kind : FeedKind} {feed : Feed}
    (opened : state.feed? kind = some feed) (idle : feed.out.waiting = .empty) :
    state.closeFeed kind = state.setFeed kind none := by
  unfold State.closeFeed
  simp only [opened]
  have flushed : feed.out.flush state.files = (.ok (), state.files, .ofFile feed.out.file) := by
    simp only [BufferedFile.flush, FileSystem.write, idle]
    rfl
  rw [flushed]
  cases kind <;> rfl

theorem requireTemplate_none {plan : Plan} {state : State} (index : state.index = none)
    (sitemap : state.sitemap = none) (newsfeed : state.newsfeed = none) :
    Step.requireTemplate plan state =
      some (.error (.noTemplates plan.root plan.settings.templates), state) := by
  unfold Step.requireTemplate
  rw [Step.get_apply, index, sitemap, newsfeed]
  rfl

/-- Where each template is a text or not there, a build is refused for want of any. -/
theorem Plan.Refused.absent (refused : plan.Refused files failure)
    (readable : ∀ name ∈ plan.settings.templateNames, Readable files (Path.join plan.root name)) :
    ∀ name ∈ plan.settings.templateNames,
      files.readText (Path.join plan.root name) = .error .notFound := by
  cases refused with
  | noTemplates absent => exact absent
  | unreadable within unreadable present =>
    exact absurd (readable _ within _ unreadable) present

/-- Without a template for the site map, a build that is refused has opened nothing. -/
theorem stops_unmapped {state left : State} (refused : plan.Refused state.files failure)
    (sitemap : state.sitemap = none) (newsfeed : state.newsfeed = none)
    (readable : Readable state.files (Path.join plan.root plan.settings.templates.index))
    (absent : state.files.readText (Path.join plan.root plan.settings.templates.index) =
      .error .notFound → state.index = none)
    (missing : state.files.readText (Path.join plan.root plan.settings.templates.sitemap) =
      .error .notFound)
    (run : (do
      Step.openFeed plan .newsfeed plan.settings.templates.newsfeed plan.settings.outputs.newsfeed
      Step.onward plan : Step Report) state = some (.error failure, left)) : left = state := by
  have mapless : Readable state.files (Path.join plan.root plan.settings.templates.sitemap) :=
    fun cause failed => (Except.error.inj (missing.symm.trans failed)).symm
  have gone (newsless : Readable state.files (Path.join plan.root plan.settings.templates.newsfeed)) :=
    refused.absent (by simpa [Settings.templateNames] using ⟨readable, mapless, newsless⟩)
  rw [Step.bind_apply] at run
  cases news : state.files.readText (Path.join plan.root plan.settings.templates.newsfeed) with
  | ok text =>
    have none := gone (fun _ failed => by cases news.symm.trans failed)
      plan.settings.templates.newsfeed (by simp [Settings.templateNames])
    cases news.symm.trans none
  | error cause =>
    by_cases present : cause ≠ .notFound
    · rw [(Step.OpensFeed.unreadable news present).run] at run
      cases run
      rfl
    · cases not_not.mp present
      rw [(Step.OpensFeed.missing news).run] at run
      dsimp only at run
      have none := gone (fun _ failed => (Except.error.inj (news.symm.trans failed)).symm)
      rw [Step.onward, Step.bind_apply, requireTemplate_none
        (absent (none _ (by simp [Settings.templateNames]))) sitemap newsfeed] at run
      cases run
      rfl

/-- Nothing waits to be written into a feed that has just been opened. -/
theorem Step.openFeed_opened {kind : FeedKind} {templateName outputName text : String} {state : State}
    {created : FileSystem} {file : OpenFile}
    (read : state.files.readText (Path.join plan.root templateName) = .ok text)
    (opened : state.files.create (Path.join plan.root outputName) = .ok (created, file)) :
    ∃ later feed, Step.openFeed plan kind templateName outputName state = some (.ok (), later) ∧
      later.files = created ∧ later.feed? kind = some feed ∧ feed.out.waiting = .empty ∧
      ∀ other, other ≠ kind → later.feed? other = state.feed? other := by
  refine ⟨_, ⟨templateName, .ofSource text, Path.join plan.root outputName, .ofFile file⟩,
    (Step.OpensFeed.opened read opened).run, State.setFeed_files .., ?_, rfl, fun other apart => ?_⟩
  · rw [State.feed?_setFeed, if_pos rfl]
  · rw [State.feed?_setFeed, if_neg apart]
    cases other <;> rfl

/-- A build fails for want of a text only where it reads a template. -/
theorem openFeed_onward_legible {state left : State}
    (readable : Readable state.files (Path.join plan.root plan.settings.templates.newsfeed))
    (run : (do
      Step.openFeed plan .newsfeed plan.settings.templates.newsfeed plan.settings.outputs.newsfeed
      Step.onward plan : Step Report) state = some (.error failure, left)) : failure.Legible := by
  obtain ⟨_, failed, ⟨⟩⟩ | ⟨_, _, -, onward⟩ := Step.bind_run run
  · cases Step.openFeed_cases failed with
    | unreadable unreadable present => exact absurd (readable _ unreadable) present
    | refused _ refused => exact BuildError.legible_inaccessible (create_legible refused)
  · exact onward_legible plan _ _ _ onward

/-- Behind the site map, a build fails for a template only where that of the news feed cannot be read, and
goes no further there. -/
theorem stops_mapped {state left : State} {created : String} {location : Location}
    (refused : plan.Refused files failure) (creates : Creates created location files state.files)
    (readable : Readable files (Path.join plan.root plan.settings.templates.index)) {text : String}
    (mapped : files.readText (Path.join plan.root plan.settings.templates.sitemap) = .ok text)
    (run : (do
      Step.openFeed plan .newsfeed plan.settings.templates.newsfeed plan.settings.outputs.newsfeed
      Step.onward plan : Step Report) state = some (.error failure, left)) : left = state := by
  by_cases newsless :
      Readable state.files (Path.join plan.root plan.settings.templates.newsfeed)
  · exfalso
    cases refused with
    | noTemplates absent =>
      cases mapped.symm.trans (absent _ (by simp [Settings.templateNames]))
    | @unreadable name cause within unreadable present =>
      simp only [Settings.templateNames, List.mem_cons, List.not_mem_nil, or_false] at within
      rcases within with rfl | rfl | rfl
      · exact present (readable cause unreadable)
      · cases mapped.symm.trans unreadable
      · rcases creates.unreadable present unreadable with same | ⟨rfl, emptied⟩
        · exact present (newsless cause same)
        -- the template is the site map itself by now, and an empty text
        · exact openFeed_onward_legible newsless run _ rfl
  · obtain ⟨cause, unreadable, present⟩ : ∃ cause, state.files.readText
        (Path.join plan.root plan.settings.templates.newsfeed) = .error cause ∧
          cause ≠ .notFound := by
      simpa [Readable] using newsless
    rw [Step.bind_apply, (Step.OpensFeed.unreadable unreadable present).run] at run
    cases run
    rfl

theorem build_refused_files (built : build plan files = some (.error failure, later))
    (refused : plan.Refused files failure) :
    (later = files ∧ ∀ location, ¬ plan.Empties files location) ∨
      ∃ file, files.create (Path.join plan.root plan.settings.outputs.sitemap) = .ok (later, file) ∧
        plan.Empties files file.location := by
  obtain ⟨left, run, rfl⟩ := build_run built
  rw [Step.buildSite_eq, Step.bind_apply] at run
  rcases readIndex_start plan files with
    ⟨unreadable, _, fails⟩ | ⟨readable, state, passes, rfl, closed, absent⟩
  · rw [fails] at run
    cases run
    exact .inl ⟨rfl, fun _ empties => unreadable empties.1⟩
  rw [passes] at run
  dsimp only at run
  have still (same : left = state) :
      ((left.closeFeed .sitemap).closeFeed .newsfeed).files = state.files := by
    rw [same, State.closeFeed_closed (closed .sitemap), State.closeFeed_closed (closed .newsfeed)]
  rw [Step.bind_apply] at run
  cases map : state.files.readText (Path.join plan.root plan.settings.templates.sitemap) with
  | error cause =>
    refine .inl ⟨still ?_, fun _ ⟨_, ⟨text, mapped⟩, _⟩ => nomatch map.symm.trans mapped⟩
    by_cases missing : cause = .notFound
    · subst missing
      rw [(Step.OpensFeed.missing map).run] at run
      exact stops_unmapped refused (closed .sitemap) (closed .newsfeed) readable absent map run
    · rw [(Step.OpensFeed.unreadable map missing).run] at run
      cases run
      rfl
  | ok text =>
    cases opened : state.files.create (Path.join plan.root plan.settings.outputs.sitemap) with
    | error cause =>
      rw [(Step.OpensFeed.refused map opened).run] at run
      cases run
      refine .inl ⟨still rfl, fun location empties => ?_⟩
      obtain ⟨-, -, _, _, made, -⟩ := empties
      cases opened.symm.trans made
    | ok made =>
      obtain ⟨created, file⟩ := made
      obtain ⟨later, feed, opens, rfl, attached, idle, others⟩ := Step.openFeed_opened map opened
      rw [opens] at run
      have same : left = later := stops_mapped refused (creates_of_create opened).2 readable map run
      refine .inr ⟨file, ?_, readable, ⟨text, map⟩, _, file, opened, rfl⟩
      have newsless : (later.setFeed .sitemap none).feed? .newsfeed = none :=
        (others .newsfeed nofun).trans (closed .newsfeed)
      rw [same, State.closeFeed_idle attached idle, State.closeFeed_closed newsless]
      rfl

/-- A build that comes to nothing for its templates leaves each file with what was in it, but for the one that
is emptied for the site map. -/
theorem build_refused (built : build plan files = some (.error failure, later))
    (refused : plan.Refused files failure) (location : Location) (content : ByteArray)
    (stood : files.node? location = some (.file content)) :
    (¬ plan.Empties files location ∧ later.node? location = some (.file content)) ∨
      plan.Empties files location ∧ later.node? location = some (.file .empty) := by
  rcases build_refused_files built refused with ⟨rfl, spared⟩ | ⟨file, opened, empties⟩
  · exact .inl ⟨spared location, stood⟩
  · have creates := (creates_of_create opened).2
    by_cases here : location = file.location
    · subst here
      refine .inr ⟨empties, ?_⟩
      rcases creates.emptied with emptied | ⟨_, device⟩
      · exact emptied
      · cases stood.symm.trans device
    · refine .inl ⟨fun ⟨_, _, _, other, opened', same⟩ => ?_, by rw [creates.others location here, stood]⟩
      cases opened.symm.trans opened'
      exact here same.symm

end

/-- A site with a map from an earlier build, in which the template of the news feed is no text. -/
def brokenNewsfeed : FileSystem :=
  ⟨[], [
    (["site"], .directory),
    (["site", ".newsfeed.rss"], .file ⟨#[0xff]⟩),
    (["site", ".sitemap.xml"], .file "map".toUTF8),
    (["site", "sitemap.xml"], .file "old".toUTF8)]⟩

/-- The map is lost although the build fails before it visits anything. -/
theorem build_refused_brokenNewsfeed :
    ∃ later,
      build ⟨"site", .stock, 0, 100⟩ brokenNewsfeed =
        some (.error (.inaccessible (Path.join "site" ".newsfeed.rss") .invalidText), later) ∧
      later.node? ["site", ".sitemap.xml"] = some (.file "map".toUTF8) ∧
      later.node? ["site", "sitemap.xml"] = some (.file .empty) := by
  have fails : (build ⟨"site", .stock, 0, 100⟩ brokenNewsfeed).map (fun built =>
      match built.1 with
      | .error failure => some failure
      | .ok _ => none) =
        some (some (.inaccessible (Path.join "site" ".newsfeed.rss") .invalidText)) := by
    decide +kernel
  obtain ⟨⟨result, later⟩, built, failed⟩ := Option.map_eq_some_iff.mp fails
  have refused : Plan.Refused ⟨"site", .stock, 0, 100⟩ brokenNewsfeed
      (.inaccessible (Path.join "site" ".newsfeed.rss") .invalidText) :=
    .unreadable (by decide) (by decide +kernel) nofun
  have opens : brokenNewsfeed.create (Path.join "site" "sitemap.xml") =
      .ok (brokenNewsfeed.put ["site", "sitemap.xml"] (.file .empty), ⟨["site", "sitemap.xml"], 0⟩) :=
    rfl
  have empties : Plan.Empties ⟨"site", .stock, 0, 100⟩ brokenNewsfeed ["site", "sitemap.xml"] := by
    refine ⟨fun cause failed => ?_, ⟨"map", by decide +kernel⟩, _, _, opens, rfl⟩
    have missing : brokenNewsfeed.readText (Path.join "site" ".index.html") = .error .notFound := by
      decide +kernel
    exact (Except.error.inj (missing.symm.trans failed)).symm
  cases result with
  | ok report => cases failed
  | error failure =>
    cases failed
    refine ⟨later, built, ?_, ?_⟩
    · rcases build_refused built refused ["site", ".sitemap.xml"] _ rfl with ⟨-, kept⟩ | ⟨other, -⟩
      · exact kept
      · obtain ⟨-, -, _, _, opens', same⟩ := other
        cases opens.symm.trans opens'
        exact absurd same (by decide)
    · rcases build_refused built refused ["site", "sitemap.xml"] _ rfl with ⟨spared, -⟩ | ⟨-, emptied⟩
      · exact absurd empties spared
      · exact emptied

end SiteIndex.Build

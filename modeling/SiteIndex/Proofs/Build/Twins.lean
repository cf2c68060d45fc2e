import SiteIndex.Proofs.Build.Steps
import SiteIndex.Proofs.Template.Handing

/-!
A site that is built twice, with one text of the index template and with another one. The two builds
go the same way, and what differs is in hidden files: the template itself, the indexes, and perhaps the
site map.
-/

namespace SiteIndex.Build

open SiteIndex.Listing SiteIndex.FileSystem SiteIndex.Template

structure Site where
  root : String
  /-- Where the content root lies. -/
  place : Location
  now : Int
  fuel : Nat
  fuel' : Nat
  text : String
  text' : String
  /-- The texts that the template of the news feed may have. -/
  news : String → Prop
  /-- The cursors that the templates of a directory may find. -/
  handed : Cursor → Prop

namespace Site

def plan (site : Site) : Plan :=
  ⟨site.root, .stock, site.now, site.fuel⟩

def plan' (site : Site) : Plan :=
  ⟨site.root, .stock, site.now, site.fuel'⟩

/-- The file of a feed. -/
def output (site : Site) : FeedKind → Location
  | .sitemap => site.place ++ ["sitemap.xml"]
  | .newsfeed => site.place ++ ["newsfeed.rss"]

/-- The index template. -/
def template (site : Site) : Location :=
  site.place ++ [".index.html"]

end Site

/-- What makes the site map the same: every template hands the cursor on to the next one as it was
handed to it. -/
structure Site.Meets (site : Site) : Prop where
  unset : site.handed .unset
  newsfeed : ∀ template, template.AtBody → site.news template.source →
    KeepsCursor site.handed template
  index : CursorsMeet site.handed site.text site.text'

/-- A feed of two builds. Unless its file is hidden, it is the same feed in both. -/
structure FeedTwin (hidden : Location → Prop) (files : FileSystem) (location : Location)
    (feed feed' : Feed) : Prop where
  path : feed.path = feed'.path
  layout : feed.template.layout = feed'.template.layout
  lies : feed.out.file.location = location
  lies' : feed'.out.file.location = location
  opened : ∃ content, files.node? location = some (.file content)
  same : ¬ hidden location → feed = feed'

/-- The states of two builds that have come equally far. -/
structure Twin (site : Site) (ready : Template → Prop) (hidden : Location → Prop)
    (state state' : State) : Prop where
  alike : Alike hidden state.files state'.files
  tree : state.files.IsTree site.place
  rooted : state.files.find site.root = .ok (site.place, .directory)
  hides : HidesByName hidden
  unannounced : ∀ content,
    state.files.node? (site.place ++ [".index.html.news"]) ≠ some (.file content)
  index : Option.Rel (fun template template' =>
    template.rewind = withLayout site.text .bodyOnly ∧
      template'.rewind = withLayout site.text' .bodyOnly) state.index state'.index
  feeds : ∀ kind, Option.Rel (FeedTwin hidden state.files (site.output kind)) (state.feed? kind)
    (state'.feed? kind)
  primed : ∀ feed, state.newsfeed = some feed → ready feed.template
  report : state.report.shown = state'.report.shown

theorem FeedTwin.kept {hidden hidden' : Location → Prop} {files later : FileSystem}
    {location : Location} {feed feed' : Feed} (twin : FeedTwin hidden files location feed feed')
    (more : ∀ location, hidden location → hidden' location)
    (opened : ∀ content, files.node? location = some (.file content) →
      ∃ content, later.node? location = some (.file content)) :
    FeedTwin hidden' later location feed feed' :=
  { twin with
    opened := twin.opened.elim opened
    same := fun shown => twin.same fun within => shown (more location within) }

theorem FeedTwin.allKept {hidden hidden' : Location → Prop} {files later : FileSystem}
    {location : Location} {feed feed' : Option Feed}
    (twins : Option.Rel (FeedTwin hidden files location) feed feed')
    (more : ∀ location, hidden location → hidden' location)
    (opened : ∀ content, files.node? location = some (.file content) →
      ∃ content, later.node? location = some (.file content)) :
    Option.Rel (FeedTwin hidden' later location) feed feed' := by
  cases twins with
  | none => exact .none
  | some twin => exact .some (twin.kept more opened)

namespace Twin

variable {site : Site} {ready ready' : Template → Prop} {hidden hidden' : Location → Prop}
  {state state' later later' : State}

/-- A feed is open in both builds or in neither. -/
theorem index_cases (twin : Twin site ready hidden state state') :
    (state.index = none ∧ state'.index = none) ∨
      ∃ template template', state.index = some template ∧ state'.index = some template' ∧
        template.rewind = withLayout site.text .bodyOnly ∧
          template'.rewind = withLayout site.text' .bodyOnly := by
  have twins := twin.index
  generalize state.index = index at twins
  generalize state'.index = index' at twins
  cases twins with
  | none => exact .inl ⟨rfl, rfl⟩
  | some rewound => exact .inr ⟨_, _, rfl, rfl, rewound⟩

theorem feed_cases (twin : Twin site ready hidden state state') (kind : FeedKind) :
    (state.feed? kind = none ∧ state'.feed? kind = none) ∨
      ∃ feed feed', state.feed? kind = some feed ∧ state'.feed? kind = some feed' ∧
        FeedTwin hidden state.files (site.output kind) feed feed' := by
  have twins := twin.feeds kind
  generalize state.feed? kind = feed at twins
  generalize state'.feed? kind = feed' at twins
  cases twins with
  | none => exact .inl ⟨rfl, rfl⟩
  | some feeds => exact .inr ⟨_, _, rfl, rfl, feeds⟩

theorem mono (twin : Twin site ready hidden state state')
    (more : ∀ location, hidden location → hidden' location) (hides : HidesByName hidden') :
    Twin site ready hidden' state state' :=
  { twin with
    alike := twin.alike.mono more
    hides
    feeds := fun kind => FeedTwin.allKept (twin.feeds kind) more fun content file => ⟨content, file⟩ }

theorem primed_of (twin : Twin site ready hidden state state')
    (primed : ∀ feed, state.newsfeed = some feed → ready' feed.template) :
    Twin site ready' hidden state state' :=
  { twin with primed }

/-- What is in the files may change alike. -/
theorem rewritten (twin : Twin site ready hidden state state') {files files' : FileSystem}
    (outline : state.files.outline = files.outline) (alike : Alike hidden files files') :
    Twin site ready hidden { state with files } { state' with files := files' } := by
  have same : Alike (fun _ => True) state.files files :=
    ⟨outline, fun _ shown => absurd trivial shown⟩
  refine { twin with
    alike
    tree := twin.tree.of_outline outline
    rooted := same.find_directory twin.rooted
    unannounced := fun content announced => ?_
    feeds := fun kind => FeedTwin.allKept (twin.feeds kind) (fun _ => id) fun _ => same.isFile }
  obtain ⟨content, announced⟩ := same.symm.isFile announced
  exact twin.unannounced content announced

/-- An empty file made in both builds, in the place of none or of a file. -/
theorem created (twin : Twin site ready hidden state state') {directory : Location}
    (below : site.place <+: directory) {name : String} (named : IsEntryName name)
    (other : name ≠ ".index.html.news")
    (vacant : state.files.node? (directory ++ [name]) ≠ some .directory) :
    Twin site ready hidden
      { state with files := state.files.put (directory ++ [name]) (.file .empty) }
      { state' with files := state'.files.put (directory ++ [name]) (.file .empty) } where
  alike := twin.alike.put (by simp) _
  tree := twin.tree.put directory named _
  rooted := find_extends (twin.tree.extends_put below vacant _) twin.rooted
  hides := twin.hides
  unannounced content := by
    rw [node?_put _ _ _ _ (by simp), if_neg]
    · exact twin.unannounced content
    · exact fun same => other (List.head_eq_of_cons_eq (List.append_inj' same rfl).2).symm
  index := twin.index
  feeds kind := FeedTwin.allKept (twin.feeds kind) (fun _ => id) fun content holds => by
    rw [node?_put _ _ _ _ (by simp)]
    split
    · exact ⟨_, rfl⟩
    · exact ⟨content, holds⟩
  primed := twin.primed
  report := twin.report

theorem setFeed (twin : Twin site ready hidden state state') {kind : FeedKind}
    {feed feed' : Option Feed}
    (twins : Option.Rel (FeedTwin hidden state.files (site.output kind)) feed feed')
    (readied : kind = .newsfeed → ∀ feed', feed = some feed' → ready' feed'.template)
    (other : kind = .sitemap → ∀ template, ready template → ready' template) :
    Twin site ready' hidden (state.setFeed kind feed) (state'.setFeed kind feed') := by
  have feeds (kind' : FeedKind) :
      Option.Rel (FeedTwin hidden state.files (site.output kind'))
        ((state.setFeed kind feed).feed? kind') ((state'.setFeed kind feed').feed? kind') := by
    rw [State.feed?_setFeed, State.feed?_setFeed]
    by_cases here : kind' = kind
    · subst here
      simpa only [if_true] using twins
    · simpa only [if_neg here] using twin.feeds kind'
  cases kind with
  | sitemap =>
      exact { twin with
        feeds, primed := fun feed newsfeed => other rfl _ (twin.primed feed newsfeed) }
  | newsfeed => exact { twin with feeds, primed := readied rfl }

/-- The newsfeed has no hidden name. -/
theorem newsfeed_shown (twin : Twin site ready hidden state state') :
    ¬ hidden (site.output .newsfeed) :=
  twin.hides.shown site.place (c := 's') (by decide) (by decide)

end Twin

/-- Where a build is: directories that are there, and the snapshots apart from marks, and from the
cursor of the directory that it is in. -/
structure Spot where
  origin : FileSystem
  directory : Option Nat
  base : Arena

/-- Two builds at one spot. -/
structure Stage (site : Site) (spot : Spot) (ready : Template → Prop) (hidden : Location → Prop)
    (even : Prop) (state state' : State) : Prop extends Twin site ready hidden state state' where
  extended : spot.origin.Extends state.files
  arena : state.arena.still spot.directory = spot.base
  arena' : state'.arena.still spot.directory = spot.base
  level : even → state.arena.unmarked = state'.arena.unmarked

/-- What is left of two builds that have failed. -/
def Broken (site : Site) (state state' : State) : Prop :=
  ∃ hidden, (site.Meets → ¬ hidden (site.output .sitemap)) ∧
    Twin site (fun _ => True) hidden state state'

/-- The directory that a build is in was listed with entries that are its own. -/
def Spot.Sited (spot : Spot) (site : Site) : Prop :=
  ∀ snapshot, spot.directory.bind spot.base.get? = some snapshot →
    Template.Sited spot.origin site.place snapshot

section
variable {site : Site} {spot : Spot} {ready ready' : Template → Prop} {hidden : Location → Prop}
  {even even' : Prop} {kind : FeedKind} {state state' : State}

theorem Stage.rewritten (stage : Stage site spot ready hidden even state state')
    {files files' : FileSystem} (outline : state.files.outline = files.outline)
    (alike : Alike hidden files files') :
    Stage site spot ready hidden even { state with files } { state' with files := files' } := by
  have same : Alike (fun _ => True) state.files files :=
    ⟨outline, fun _ shown => absurd trivial shown⟩
  exact { stage with
    toTwin := stage.toTwin.rewritten outline alike
    extended := stage.extended.trans same.extends }

theorem Stage.created (stage : Stage site spot ready hidden even state state')
    {directory : Location} (below : site.place <+: directory) {name : String}
    (named : IsEntryName name) (other : name ≠ ".index.html.news")
    (vacant : state.files.node? (directory ++ [name]) ≠ some .directory) :
    Stage site spot ready hidden even
      { state with files := state.files.put (directory ++ [name]) (.file .empty) }
      { state' with files := state'.files.put (directory ++ [name]) (.file .empty) } :=
  { stage with
    toTwin := stage.toTwin.created below named other vacant
    extended := stage.extended.trans (stage.tree.extends_put below vacant _) }

/-- Marks do not count, nor the cursor of the directory that the builds are in, nor diagnostics. -/
theorem Stage.touched (stage : Stage site spot ready hidden even state state')
    {arena arena' : Arena} {report report' : Report}
    (still : arena.still spot.directory = state.arena.still spot.directory)
    (still' : arena'.still spot.directory = state'.arena.still spot.directory)
    (level : even' → arena.unmarked = arena'.unmarked)
    (shown : report.shown = state.report.shown) (shown' : report'.shown = state'.report.shown) :
    Stage site spot ready hidden even' { state with arena, report }
      { state' with arena := arena', report := report' } :=
  { stage with
    report := shown.trans (stage.report.trans shown'.symm)
    arena := still.trans stage.arena
    arena' := still'.trans stage.arena'
    level }

theorem Stage.setFeed (stage : Stage site spot ready hidden even state state')
    {feed feed' : Option Feed}
    (twins : Option.Rel (FeedTwin hidden state.files (site.output kind)) feed feed')
    (readied : kind = .newsfeed → ∀ feed', feed = some feed' → ready' feed'.template)
    (other : kind = .sitemap → ∀ template, ready template → ready' template) :
    Stage site spot ready' hidden even (state.setFeed kind feed) (state'.setFeed kind feed') where
  toTwin := stage.toTwin.setFeed twins readied other
  extended := by simpa using stage.extended
  arena := by simpa using stage.arena
  arena' := by simpa using stage.arena'
  level := by simpa using stage.level

end

end SiteIndex.Build

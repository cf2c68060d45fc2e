import SiteIndex.Proofs.Build.Pieces

/-!
The walk of a build as it fills the feeds. Every directory that is visited comes to a page: the news in
it with a piece of the news feed for each, the expansion of its index, and a piece of the site map. What
has been written to a feed are the pieces of the pages, one behind the other, behind the head.
-/

namespace SiteIndex.Build

open SiteIndex.Listing SiteIndex.FileSystem SiteIndex.Template

/-- The texts of the templates that there are. -/
structure Sources where
  index : Option String
  feed : FeedKind → Option String

/-- What is written for a directory: with which files and snapshots it has been entered, the news in it,
and the expansions for it. -/
structure Page where
  trail : List String
  files : FileSystem
  arena : Arena
  news : List (News.Item × Option Piece)
  index : Option Piece
  entry : Option Piece

namespace Page

/-- The pieces that a page adds to a feed. -/
def pieces (page : Page) : FeedKind → List Piece
  | .sitemap => page.entry.toList
  | .newsfeed => page.news.flatMap fun item => item.2.toList

/-- The expansions for a page, in their order. -/
def expansions (page : Page) : List Piece :=
  page.pieces .newsfeed ++ page.index.toList ++ page.pieces .sitemap

/-- What the report says of the news of a page. -/
def announcements (page : Page) : List NewsReport :=
  page.news.map fun (item, _) => ⟨wayOf page.trail ++ item.name, item.date.text, item.title⟩

/-- A directory that has been entered, and nothing been written for it. -/
def blank (trail : List String) (files : FileSystem) (arena : Arena) : Page :=
  ⟨trail, files, arena, [], none, none⟩

end Page

/-- The news of a directory that can be read. -/
def itemsAt (files : FileSystem) (settings : Settings) (root : String) (trail : List String) :
    List News.Item :=
  (newsSidecars files settings (pathOf root trail)).filterMap fun sidecar =>
    (News.Item.load files settings.conventions (pathOf root trail) sidecar).toOption

/-- Every expansion of a page is one of the right section, for its directory, and finds the snapshots as
the one before it has left them. -/
structure Page.Drawn (plan : Plan) (finds : FileSystem → Prop) (place : Location) (sources : Sources)
    (page : Page) (arena : Arena) : Prop where
  news : ∀ item ∈ page.news, Option.Rel (fun source piece =>
    piece.Expands plan finds (plan.output place .newsfeed) (partAt source (bodyOffset source))
      (some page.trail.length) (some item.1)) (sources.feed .newsfeed) item.2
  index : ∀ piece ∈ page.index, ∃ source, sources.index = some source ∧
    piece.Expands plan finds (place ++ page.trail ++ [plan.settings.outputs.index])
      (withLayout source .bodyOnly) (some page.trail.length) none
  entry : ∀ piece ∈ page.entry, ∃ source, sources.feed .sitemap = some source ∧
    piece.Expands plan finds (plan.output place .sitemap) (partAt source (bodyOffset source))
      (some page.trail.length) none
  handed : Handed page.arena page.expansions arena

/-- The directory of a page has been entered with a new snapshot of it, as it was found then. -/
structure Page.Entered (plan : Plan) (finds : FileSystem → Prop) (place : Location) (page : Page) :
    Prop where
  found : finds page.files
  snapshots : ∃ base parent entryName, page.arena.unmarked = Arena.push base
    (listingOf page.files plan.settings parent entryName (pathOf plan.root page.trail)
      (place ++ page.trail)) ∧ page.arena.unmarked.Spells page.trail

/-- The page of a directory that has been visited, with all its news and with its entry in the site
map. -/
structure Page.Written (plan : Plan) (finds : FileSystem → Prop) (place : Location)
    (sources : Sources) (page : Page) : Prop extends page.Entered plan finds place where
  drawn : ∃ arena, page.Drawn plan finds place sources arena
  items : page.news.map Prod.fst = itemsAt page.files plan.settings plan.root page.trail
  listed : page.entry.isSome = (sources.feed .sitemap).isSome

/-- The feeds are filled with what is before the bodies and with the pieces of the pages, and the index
can be expanded again. -/
structure Filling (plan : Plan) (place : Location) (sources : Sources)
    (heads : FeedKind → List Piece) (pages : List Page) (state : State) : Prop where
  index : Option.Rel (fun source template => template.rewind = withLayout source .bodyOnly)
    sources.index state.index
  feeds : ∀ kind, Fills plan place kind (sources.feed kind) bodyOffset
    (Piece.texts (heads kind ++ pages.flatMap (·.pieces kind))) state
  joined : ∀ kind, Joined (heads kind ++ pages.flatMap (·.pieces kind))

/-- The report tells of the directories that are done, and of the news of the pages. -/
structure Noted (done : List (List String)) (pages : List Page) (state : State) : Prop where
  directories : state.report.directories.toList.map DirectoryReport.path = done.map wayOf
  news : state.report.news.toList = pages.flatMap Page.announcements

/-- In the middle of a page, when those before it have been written. -/
structure Drafting (plan : Plan) (finds : FileSystem → Prop) (place : Location) (sources : Sources)
    (heads : FeedKind → List Piece) (done : List (List String)) (pages : List Page) (page : Page)
    (state : State) : Prop where
  filling : Filling plan place sources heads (pages ++ [page]) state
  noted : Noted done (pages ++ [page]) state
  drawn : page.Drawn plan finds place sources state.arena

section
variable {plan : Plan} {finds : FileSystem → Prop} {place : Location}
  {made filled : Location → Prop} {origin : FileSystem} {sources : Sources}
  {heads : FeedKind → List Piece} {done : List (List String)} {pages : List Page} {page : Page}
  {base : Arena} {state later : State}

theorem Noted.silent (noted : Noted done pages state) (silent : Silent state later) :
    Noted done pages later :=
  ⟨by rw [silent.directories, noted.directories], by rw [silent.news, noted.news]⟩

theorem Noted.paged (noted : Noted done (pages ++ [page]) state) {page' : Page}
    (same : page'.announcements = page.announcements) : Noted done (pages ++ [page']) state := by
  refine ⟨noted.directories, noted.news.trans ?_⟩
  simp only [List.flatMap_append, List.flatMap_singleton, same]

/-- A feed that is added to, while nothing happens to the other. -/
theorem Filling.adds (filling : Filling plan place sources heads (pages ++ [page]) state)
    {kind : FeedKind} {directory : Option Nat} {item : Option News.Item} {piece : Option Piece}
    (adds : Adds plan finds place kind (sources.feed kind) directory item
      (Piece.texts (heads kind ++ (pages ++ [page]).flatMap (·.pieces kind))) state later piece)
    {page' : Page} (here : page'.pieces kind = page.pieces kind ++ piece.toList)
    (others : ∀ other, other ≠ kind → page'.pieces other = page.pieces other) :
    Filling plan place sources heads (pages ++ [page']) later where
  index := by
    rw [adds.index]
    exact filling.index
  feeds other := by
    by_cases same : other = kind
    · subst same
      have fills := adds.fills
      rw [← Piece.texts_append_toList] at fills
      simp only [List.flatMap_append, List.flatMap_singleton, List.append_assoc] at fills ⊢
      rw [here]
      exact fills
    · have fills := (filling.feeds other).untouched (adds.others other same)
      simp only [List.flatMap_append, List.flatMap_singleton] at fills ⊢
      rw [others other same]
      exact fills
  joined other := by
    by_cases same : other = kind
    · subst same
      have joined := (filling.joined other).append_toList adds.behind
      simp only [List.flatMap_append, List.flatMap_singleton, List.append_assoc] at joined ⊢
      rw [here]
      exact joined
    · have joined := filling.joined other
      simp only [List.flatMap_append, List.flatMap_singleton] at joined ⊢
      rw [others other same]
      exact joined

theorem Filling.untouched (filling : Filling plan place sources heads pages state)
    (index : Option.Rel (fun source template => template.rewind = withLayout source .bodyOnly)
      sources.index later.index)
    (untouched : ∀ kind, Untouched plan place kind state later) :
    Filling plan place sources heads pages later :=
  ⟨index, fun kind => (filling.feeds kind).untouched (untouched kind), filling.joined⟩

/-- Neither the snapshots nor the report are a matter of the feeds. -/
theorem Filling.beside (filling : Filling plan place sources heads pages state) (arena : Arena)
    (report : Report) : Filling plan place sources heads pages { state with arena, report } :=
  filling.untouched filling.index fun kind => ⟨by cases kind <;> rfl, rfl⟩

/-- Of the last page only the pieces count. -/
theorem Filling.paged (filling : Filling plan place sources heads (pages ++ [page]) state)
    {page' : Page} (same : ∀ kind, page'.pieces kind = page.pieces kind) :
    Filling plan place sources heads (pages ++ [page']) state := by
  have alike (kind : FeedKind) : (pages ++ [page']).flatMap (Page.pieces · kind) =
      (pages ++ [page]).flatMap (Page.pieces · kind) := by
    simp only [List.flatMap_append, List.flatMap_singleton, same]
  refine ⟨filling.index, fun kind => ?_, fun kind => ?_⟩
  · rw [alike]
    exact filling.feeds kind
  · rw [alike]
    exact filling.joined kind

section
variable (distinct : plan.settings.outputNames.Nodup)
include distinct

/-- News are noted, and get their piece of the news feed. -/
theorem Drafting.announced (drafting : Drafting plan finds place sources heads done pages page state)
    (found : finds state.files) (unlisted : page.index = none ∧ page.entry = none) {item : News.Item}
    {result : Except BuildError Unit}
    (run : Step.writeBody plan .newsfeed page.trail.length (some item)
      { state with report := { state.report with
        news := state.report.news.push ⟨wayOf page.trail ++ item.name, item.date.text, item.title⟩ } } =
        some (result, later)) :
    ∃ piece, Drafting plan finds place sources heads done pages
      { page with news := page.news ++ [(item, piece)] } later := by
  have noted : Noted done (pages ++ [{ page with news := page.news ++ [(item, none)] }])
      { state with report := { state.report with
        news := state.report.news.push
          ⟨wayOf page.trail ++ item.name, item.date.text, item.title⟩ } } := by
    refine ⟨drafting.noted.directories, ?_⟩
    simp only [Array.toList_push, drafting.noted.news, List.flatMap_append, List.flatMap_singleton,
      List.append_assoc, Page.announcements, List.map_append, List.map_singleton]
  have filling := drafting.filling.beside state.arena { state.report with
    news := state.report.news.push ⟨wayOf page.trail ++ item.name, item.date.text, item.title⟩ }
  obtain ⟨rfl, piece, adds⟩ := writeBody_adds distinct (filling.feeds .newsfeed) found run
  have drawn := drafting.drawn
  refine ⟨piece, filling.adds adds ?_ ?_, ?_, ?_, ?_, ?_, ?_⟩
  · simp only [Page.pieces, List.flatMap_append, List.flatMap_singleton]
  · intro other differ
    cases other with
    | sitemap => rfl
    | newsfeed => exact absurd rfl differ
  · refine (noted.silent adds.toSilent).paged ?_
    simp only [Page.announcements, List.map_append, List.map_singleton]
  · intro other within
    rcases List.mem_append.mp within with within | within
    · exact drawn.news other within
    · rw [List.mem_singleton.mp within]
      exact adds.expands
  · exact drawn.index
  · exact drawn.entry
  · have handed := drawn.handed.append adds.handed
    simpa only [Page.expansions, Page.pieces, unlisted.1, unlisted.2, Option.toList_none,
      List.append_nil, List.flatMap_append, List.flatMap_singleton] using handed

omit distinct in
/-- The index of a page gets its piece, while nothing happens to the feeds. -/
theorem Drafting.indexed (drafting : Drafting plan finds place sources heads done pages page state)
    (unlisted : page.index = none ∧ page.entry = none)
    (untouched : ∀ kind, Untouched plan place kind state later) (silent : Silent state later)
    (rewound : Option.Rel (fun source template => template.rewind = withLayout source .bodyOnly)
      sources.index later.index)
    {source : String} (known : sources.index = some source) {piece : Piece}
    (expands : piece.Expands plan finds (place ++ page.trail ++ [plan.settings.outputs.index])
      (withLayout source .bodyOnly) (some page.trail.length) none)
    (handed : Handed state.arena [piece] later.arena) :
    Drafting plan finds place sources heads done pages { page with index := some piece } later where
  filling := (drafting.filling.untouched rewound untouched).paged fun kind => by cases kind <;> rfl
  noted := (drafting.noted.silent silent).paged rfl
  drawn := by
    refine ⟨drafting.drawn.news, ?_, ?_, ?_⟩
    · rintro _ ⟨⟩
      exact ⟨source, known, expands⟩
    · intro other within
      cases unlisted.2.symm.trans within
    · have handed := drafting.drawn.handed.append handed
      simpa only [Page.expansions, Page.pieces, unlisted.1, unlisted.2, Option.toList_none,
        Option.toList_some, List.append_nil] using handed

variable (permits : ∀ files, Reworked place made filled origin files → finds files)
  (ground : Ground plan place made filled origin)
  (outputs : Outputs plan.settings place made filled) (apart : plan.settings.Apart)
  (found : origin.find (pathOf plan.root page.trail) = .ok (place ++ page.trail, .directory))
  (unlisted : page.index = none ∧ page.entry = none)
include permits ground outputs apart found unlisted

end

/-- A directory that has been entered has a blank page. -/
theorem Drafting.start (filling : Filling plan place sources heads pages state)
    (noted : Noted done pages state) (trail : List String) (files : FileSystem) :
    Drafting plan finds place sources heads done pages (.blank trail files state.arena) state where
  filling := by
    have same (kind : FeedKind) :
        (pages ++ [Page.blank trail files state.arena]).flatMap (Page.pieces · kind) =
          pages.flatMap (Page.pieces · kind) := by
      rw [List.flatMap_append, List.flatMap_singleton]
      cases kind <;> exact List.append_nil _
    refine ⟨filling.index, fun kind => ?_, fun kind => ?_⟩
    · exact same kind ▸ filling.feeds kind
    · exact same kind ▸ filling.joined kind
  noted := by
    refine ⟨noted.directories, noted.news.trans ?_⟩
    rw [List.flatMap_append, List.flatMap_singleton]
    exact (List.append_nil _).symm
  drawn := ⟨nofun, nofun, nofun, rfl⟩

section
variable (distinct : plan.settings.outputNames.Nodup)
  (permits : ∀ files, Reworked place made filled origin files → finds files)
  (ground : Ground plan place made filled origin)
  (outputs : Outputs plan.settings place made filled) (apart : plan.settings.Apart)
include distinct permits ground outputs apart

end

end

end SiteIndex.Build

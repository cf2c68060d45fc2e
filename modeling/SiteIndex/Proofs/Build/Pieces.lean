import SiteIndex.Proofs.Build.Reporting
import SiteIndex.Proofs.Build.Sparing
import SiteIndex.Proofs.Output.Writer
import SiteIndex.Proofs.Template.SectionStarts
import SiteIndex.Proofs.Template.Silence

/-!
What a feed is put together from. Each expansion of one of its sections comes to a piece of text behind
what has been written to it before, and the body is about to be expanded again from where it begins.
Neither the other feed nor an index has a part in that.
-/

namespace SiteIndex

open SiteIndex.Listing SiteIndex.FileSystem

namespace Template

/-- An expansion into a file comes behind what has been written to it. -/
theorem kept_written (context : Context) (bytes : ByteArray) :
    Kept FileWriter.sink context (fun scene => ∃ text, scene.out.Written (bytes ++ text))
      (fun _ => False) where
  write := by
    rintro scene more ⟨text, written⟩
    unfold Action.writeBytes
    by_cases none : more.isEmpty = true
    · rw [if_pos none]
      exact ⟨text, written⟩
    · obtain ⟨later, passed, behind⟩ := FileWriter.write_written written more
      rw [if_neg none]
      simp only [FileWriter.sink, passed]
      exact ⟨text ++ more, ByteArray.append_assoc ▸ behind⟩
  moves _ _ written _ := written
  rootSteps _ written := written

theorem expand_written {context : Context} {fuel : Nat} {suppressed : Bool}
    {template after : Template} {scene later : Scene FileWriter} {result : Except FileError Ending}
    {bytes : ByteArray} (written : scene.out.Written bytes)
    (ended : template.expand (sceneHost FileWriter.sink context) fuel suppressed scene =
      some (result, after, later)) : ∃ text, later.out.Written (bytes ++ text) := by
  have kept := (kept_written context bytes).expand
    ⟨.empty, by rw [ByteArray.append_empty]; exact written⟩ ended
  cases result with
  | ok ending => exact kept
  | error _ => exact kept.elim

end Template

namespace Build

open SiteIndex.Template

/-- An expansion into a file, and the text that it has added there. -/
structure Piece where
  before : Scene FileWriter
  later : Scene FileWriter
  text : ByteArray

/-- The piece is what the expansion of a section comes to, for a directory and for news, on files that
are as they may be found and into the one at `location`. -/
structure Piece.Expands (plan : Plan) (finds : FileSystem → Prop) (location : Location)
    (part : Template) (directory : Option Nat) (news : Option News.Item) (piece : Piece) : Prop where
  ended : ∃ ending after, part.expand
    (sceneHost FileWriter.sink (plan.context directory news)) plan.fuel false piece.before =
      some (.ok ending, after, piece.later)
  steps : piece.before.rootSteps = 0
  finds : finds piece.before.out.files
  lies : piece.before.out.out.file.location = location
  adds : ∃ bytes, piece.before.out.Written bytes ∧ piece.later.out.Written (bytes ++ piece.text)

/-- Each piece finds the snapshots as the one before it has left them. -/
def Handed : Arena → List Piece → Arena → Prop
  | first, [], last => first = last
  | first, piece :: rest, last => piece.before.arena = first ∧ Handed piece.later.arena rest last

/-- The texts of the pieces, one behind the other. -/
def Piece.texts (pieces : List Piece) : ByteArray :=
  pieces.foldl (fun bytes piece => bytes ++ piece.text) .empty

/-- Each piece has been written behind the texts of those before it. -/
def Joined (pieces : List Piece) : Prop :=
  ∀ before piece after, pieces = before ++ piece :: after →
    piece.before.out.Written (Piece.texts before)

theorem Handed.append {first middle last : Arena} {pieces more : List Piece}
    (handed : Handed first pieces middle) (handed' : Handed middle more last) :
    Handed first (pieces ++ more) last := by
  induction pieces generalizing first with
  | nil =>
      cases handed
      exact handed'
  | cons piece rest ih => exact ⟨handed.1, ih handed.2⟩

theorem Piece.texts_concat (pieces : List Piece) (piece : Piece) :
    texts (pieces ++ [piece]) = texts pieces ++ piece.text := by
  simp only [texts, List.foldl_append, List.foldl_cons, List.foldl_nil]

theorem Piece.texts_append_toList (pieces : List Piece) (piece : Option Piece) :
    texts (pieces ++ piece.toList) = texts pieces ++ texts piece.toList := by
  cases piece with
  | none => simp only [Option.toList_none, List.append_nil, texts, List.foldl_nil,
      ByteArray.append_empty]
  | some piece =>
      rw [Option.toList_some, texts_concat]
      simp only [texts, List.foldl_cons, List.foldl_nil, ByteArray.empty_append]

theorem Joined.nil : Joined [] :=
  fun before _ _ same => by simp at same

theorem Joined.concat {pieces : List Piece} (joined : Joined pieces) {piece : Piece}
    (behind : piece.before.out.Written (Piece.texts pieces)) : Joined (pieces ++ [piece]) := by
  intro before other after same
  cases after using List.reverseRecOn with
  | nil =>
      obtain ⟨rfl, last⟩ := List.append_inj' same rfl
      obtain rfl := List.head_eq_of_cons_eq last
      exact behind
  | append_singleton rest last =>
      rw [← List.cons_append, ← List.append_assoc] at same
      exact joined before other rest (List.append_inj' same rfl).1

theorem Joined.append_toList {pieces : List Piece} (joined : Joined pieces) {piece : Option Piece}
    (behind : ∀ last ∈ piece, last.before.out.Written (Piece.texts pieces)) :
    Joined (pieces ++ piece.toList) := by
  cases piece with
  | none => rwa [Option.toList_none, List.append_nil]
  | some last => exact joined.concat (behind last rfl)

/-- A feed that is open, with `bytes` written to its file, about to be expanded from a position on. -/
structure Filled (plan : Plan) (place : Location) (kind : FeedKind) (source : String)
    (position : Nat) (bytes : ByteArray) (files : FileSystem) (feed : Feed) : Prop where
  isAt : feed.template.IsAt source position
  lies : feed.out.file.location = plan.output place kind
  written : FileWriter.Written ⟨files, feed.out⟩ bytes

/-- The feed is filled so far if it has a text, and is closed if it has none. -/
def Fills (plan : Plan) (place : Location) (kind : FeedKind) (source : Option String)
    (position : String → Nat) (bytes : ByteArray) (state : State) : Prop :=
  match source with
  | none => state.feed? kind = none
  | some source => ∃ feed, state.feed? kind = some feed ∧
      Filled plan place kind source (position source) bytes state.files feed

/-- The feed and its file are left alone. -/
structure Untouched (plan : Plan) (place : Location) (kind : FeedKind) (state later : State) :
    Prop where
  feed : later.feed? kind = state.feed? kind
  file : later.files.node? (plan.output place kind) = state.files.node? (plan.output place kind)

section
variable {plan : Plan} {finds : FileSystem → Prop} {place : Location} {kind : FeedKind}
  {source : Option String} {position : String → Nat} {bytes : ByteArray}
  {state later : State}

theorem Filled.untouched {source : String} {position : Nat} {files files' : FileSystem} {feed : Feed}
    (filled : Filled plan place kind source position bytes files feed)
    (file : files'.node? (plan.output place kind) = files.node? (plan.output place kind)) :
    Filled plan place kind source position bytes files' feed := by
  obtain ⟨isAt, lies, content, holds, atEnd, same⟩ := filled
  refine ⟨isAt, lies, content, ?_, atEnd, same⟩
  rw [lies] at holds ⊢
  exact file.trans holds

theorem Fills.untouched (fills : Fills plan place kind source position bytes state)
    (untouched : Untouched plan place kind state later) :
    Fills plan place kind source position bytes later := by
  unfold Fills at fills ⊢
  cases source with
  | none => exact untouched.feed.trans fills
  | some source =>
      obtain ⟨feed, opened, filled⟩ := fills
      exact ⟨feed, untouched.feed.trans opened, filled.untouched untouched.file⟩

/-- No directory has been added to the report, and no news. -/
structure Silent (state later : State) : Prop where
  directories : later.report.directories = state.report.directories
  news : later.report.news = state.report.news

theorem Silent.addDiagnostics {template : String} {diagnostics : Array Diagnostic}
    (same : later.report = state.report.addDiagnostics template diagnostics) :
    Silent state later := by
  obtain ⟨directories, news⟩ := state.report.addDiagnostics_frame template diagnostics
  exact ⟨by rw [same, directories], by rw [same, news]⟩

/-- What an expansion into one feed leaves alone. -/
structure Aside (plan : Plan) (place : Location) (kind : FeedKind) (state later : State) : Prop
    extends Silent state later where
  index : later.index = state.index
  others : ∀ other, other ≠ kind → Untouched plan place other state later

theorem Aside.refl (plan : Plan) (place : Location) (kind : FeedKind) (state : State) :
    Aside plan place kind state state :=
  ⟨⟨rfl, rfl⟩, rfl, fun _ _ => ⟨rfl, rfl⟩⟩

theorem Aside.trans {middle : State} (first : Aside plan place kind state middle)
    (second : Aside plan place kind middle later) : Aside plan place kind state later where
  directories := second.directories.trans first.directories
  news := second.news.trans first.news
  index := second.index.trans first.index
  others other differ := ⟨(second.others other differ).feed.trans (first.others other differ).feed,
    (second.others other differ).file.trans (first.others other differ).file⟩

theorem Aside.setFeed (state : State) (feed : Option Feed) :
    Aside plan place kind state (state.setFeed kind feed) where
  directories := by rw [State.setFeed_report]
  news := by rw [State.setFeed_report]
  index := by rw [State.setFeed_index]
  others other differ := ⟨by rw [State.feed?_setFeed, if_neg differ], by rw [State.setFeed_files]⟩

section
variable (distinct : plan.settings.outputNames.Nodup)
include distinct

theorem aside_fed {feed : Feed} (lies : feed.out.file.location = plan.output place kind)
    {context : Context} {after : Template} {scene : Scene FileWriter}
    (leaves : Scene.Leaves context feed.out.file.location ⟨state.arena, 0, ⟨state.files, feed.out⟩⟩
      scene) : Aside plan place kind state (state.fed kind feed after scene) := by
  obtain ⟨content, rewritten⟩ := leaves.rewritten
  have expanded : Aside plan place kind state (state.expanded feed.templateName after scene) :=
    { toSilent := .addDiagnostics rfl
      index := rfl
      others := fun other differ => ⟨by cases other <;> rfl,
        (rewritten.alike.shown _ fun same =>
          output_ne_output distinct differ (same.trans lies)).symm⟩ }
  exact expanded.trans (.setFeed _ _)

/-- A section of an open feed comes to a piece. -/
theorem expandFeed_piece {source : String} {position : Nat} {feed : Feed}
    {directory : Option Nat} {news : Option News.Item} {result : Except BuildError Unit}
    (opened : state.feed? kind = some feed)
    (filled : Filled plan place kind source position bytes state.files feed)
    (found : finds state.files)
    (run : Step.expandFeed plan kind directory news false state = some (result, later)) :
    ∃ piece feed', result = .ok () ∧
      piece.Expands plan finds (plan.output place kind) (partAt source position) directory news ∧
      piece.before.out.Written bytes ∧ Handed state.arena [piece] later.arena ∧
      later.feed? kind = some feed' ∧
      Filled plan place kind source (partAt source position).upcoming.2.offset
        (bytes ++ piece.text) later.files feed' ∧
      ((partAt source position).standing.offset = position →
        feed'.template.rewind.IsAt source position) ∧
      Aside plan place kind state later := by
  have isAt := filled.isAt
  obtain ⟨content, holds, _⟩ := filled.written
  obtain ⟨ending, after, scene, ended, rfl, rfl⟩ := Step.expandFeed_ok opened holds run
  obtain ⟨_, leaves⟩ := expand_leaves holds ended
  obtain ⟨text, behind⟩ := expand_written filled.written ended
  refine ⟨⟨_, scene, text⟩, { feed with template := after.takeDiagnostics.2, out := scene.out.out },
    rfl, ⟨⟨ending, after, isAt.expand ▸ ended⟩, rfl, found, filled.lies, bytes, filled.written,
      behind⟩, filled.written, ⟨rfl, ?_⟩, ?_,
    ⟨isAt.behind ended, leaves.stays.trans filled.lies, ?_⟩, fun stands => isAt.rewound stands ended,
    aside_fed distinct filled.lies leaves⟩
  · rw [State.fed, State.setFeed_arena]
    rfl
  · rw [State.fed, State.feed?_setFeed, if_pos rfl]
  · rw [State.fed, State.setFeed_files]
    exact behind

/-- What a step that fills a feed comes to: a piece if the feed has a text, and none otherwise. -/
structure Adds (plan : Plan) (finds : FileSystem → Prop) (place : Location) (kind : FeedKind)
    (source : Option String) (directory : Option Nat) (item : Option News.Item) (bytes : ByteArray)
    (state later : State) (piece : Option Piece) : Prop extends Aside plan place kind state later where
  expands : Option.Rel (fun source piece =>
    piece.Expands plan finds (plan.output place kind) (partAt source (bodyOffset source)) directory
      item) source piece
  behind : ∀ last ∈ piece, last.before.out.Written bytes
  handed : Handed state.arena piece.toList later.arena
  fills : Fills plan place kind source bodyOffset (bytes ++ Piece.texts piece.toList) later

/-- The body of a feed is expanded from where it begins, and will be so again. -/
theorem writeBody_adds {id : Nat} {news : Option News.Item} {result : Except BuildError Unit}
    (fills : Fills plan place kind source bodyOffset bytes state) (found : finds state.files)
    (run : Step.writeBody plan kind id news state = some (result, later)) :
    result = .ok () ∧
      ∃ piece, Adds plan finds place kind source (some id) news bytes state later piece := by
  cases source with
  | none =>
      rw [Step.writeBody_closed fills] at run
      cases run
      refine ⟨rfl, none, .refl .., .none, nofun, rfl, ?_⟩
      exact fills
  | some source =>
      obtain ⟨feed, opened, filled⟩ := fills
      obtain ⟨_, failed, -⟩ | ⟨_, middle, early, ⟨⟩⟩ := Step.bind_run run
      · obtain ⟨_, _, ⟨⟩, _⟩ := expandFeed_piece distinct opened filled found failed
      obtain ⟨piece, feed', -, expands, behind, handed, opened', filled', rewound, aside⟩ :=
        expandFeed_piece distinct opened filled found early
      refine ⟨rfl, some piece, aside.trans (.setFeed _ _), .some expands, ?_, ?_, ?_⟩
      · rintro last ⟨⟩
        exact behind
      · rw [Option.toList_some, State.setFeed_arena]
        exact handed
      · refine ⟨{ feed' with template := feed'.template.rewind }, ?_,
          ⟨rewound (standing_bodyOffset source), filled'.lies, ?_⟩⟩
        · rw [State.feed?_setFeed, if_pos rfl, opened', Option.map_some]
        · rw [State.setFeed_files, Option.toList_some, ← List.nil_append [piece],
            Piece.texts_concat]
          exact filled'.written

end

end

end Build
end SiteIndex

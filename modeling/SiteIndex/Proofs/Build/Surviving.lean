import SiteIndex.Proofs.Build.Imprints
import SiteIndex.Proofs.Build.Sparing

/-!
What becomes of the indexes that a build reports, wherever the directories lie. The entries of the
report that have an index stand for indexes that have been written, each for the directory of its entry.
Where links lead several of them to one file, the last is found there under all their paths. In a tree
each has a file of its own.
-/

namespace SiteIndex.Build

open SiteIndex.Listing SiteIndex.FileSystem SiteIndex.Template

section
variable {plan : Plan} {origin : FileSystem} {base : Arena} {source : Option String}
  {imprints : List Imprint} {directories : Array DirectoryReport} {state later : State}
  {trail : List String}

/-- The directory lies where the names lead to, links followed. In a tree that is below the root. -/
structure Lies (plan : Plan) (origin : FileSystem) (trail : List String) (directory : Location) :
    Prop where
  found : origin.find (pathOf plan.root trail) = .ok (directory, .directory)
  plain : ∀ place, origin.IsTree place → origin.find plan.root = .ok (place, .directory) →
    directory = place ++ trail

theorem Lies.root {place : Location} (rooted : origin.find plan.root = .ok (place, .directory)) :
    Lies plan origin [] place where
  found := rooted
  plain place' _ rooted' := by
    cases rooted.symm.trans rooted'
    rw [List.append_nil]

/-- What is listed as a directory lies somewhere. -/
theorem Lies.below {directory : Location} (lies : Lies plan origin trail directory)
    (grown : origin.Grown state.files) {parent : Option Nat} {entryName : Option String}
    {name : String}
    (within : name ∈ (listingOf state.files plan.settings parent entryName (pathOf plan.root trail)
      directory).directories.map Entry.name) :
    ∃ inner, Lies plan origin (trail ++ [name]) inner := by
  obtain ⟨entry, listed, rfl⟩ := List.mem_map.mp within
  obtain ⟨listed, isDirectory⟩ :=
    List.mem_filter.mp ((listingOf_directories ..).mem_iff.mp listed)
  obtain ⟨inner, entered⟩ := (of_mem_entriesIn listed).2.2 isDirectory
  refine ⟨inner, ?_, fun place tree rooted => ?_⟩
  · rw [pathOf_concat]
    exact find_extends grown.narrowed entered
  · obtain rfl := lies.plain place tree rooted
    obtain ⟨_, found, _⟩ := listingOf_leads ((grown place).tree tree)
      (find_extends grown.extended lies.found) (List.prefix_append _ _) within
    cases entered.symm.trans found
    rw [List.append_assoc]

/-- What the indexes are that have been written for the directories in the report. -/
structure Records (plan : Plan) (origin : FileSystem) (source : Option String)
    (directories : Array DirectoryReport) (imprints : List Imprint) : Prop where
  entries : (directories.toList.filter DirectoryReport.index).map DirectoryReport.path =
    imprints.map fun imprint => wayOf imprint.trail
  made : ∀ imprint ∈ imprints, ∃ text, source = some text ∧ imprint.Made plan origin text
  lies : ∀ imprint ∈ imprints, ∃ directory, Lies plan origin imprint.trail directory

/-- A directory is added to the report. -/
theorem Records.push (records : Records plan origin source directories imprints)
    {directory : Location} (lies : Lies plan origin trail directory) {index : Bool}
    {imprint : Option Imprint} (printed : Printed plan origin source trail index imprint)
    (folders files : Nat) :
    Records plan origin source (directories.push ⟨wayOf trail, folders, files, index⟩)
      (imprints ++ imprint.toList) := by
  obtain ⟨rfl, made⟩ := printed
  cases imprint with
  | none =>
      rw [Option.toList_none, List.append_nil]
      refine ⟨?_, records.made, records.lies⟩
      rw [Array.toList_push, List.filter_append, List.map_append, records.entries]
      exact List.append_nil _
  | some imprint =>
      obtain ⟨rfl, printed⟩ := made imprint rfl
      refine ⟨?_, fun other within => ?_, fun other within => ?_⟩
      · rw [Array.toList_push, List.filter_append, List.map_append, records.entries, List.map_append]
        rfl
      · rcases List.mem_append.mp within with within | within
        · exact records.made other within
        · exact List.mem_singleton.mp within ▸ printed
      · rcases List.mem_append.mp within with within | within
        · exact records.lies other within
        · exact List.mem_singleton.mp within ▸ ⟨directory, lies⟩

/-- The indexes of the directories that are done are in the report, and in their files. -/
def Recorded (plan : Plan) (origin : FileSystem) (source : Option String)
    (done : List (List String)) (state : State) : Prop :=
  ∃ imprints, Imprinted plan origin source imprints state.report.directories state ∧
    Records plan origin source state.report.directories imprints ∧
    (imprints.map Imprint.trail).Sublist done

/-- What is done for the feeds leaves alone what is recorded. -/
theorem Recorded.fed {done : List (List String)} (recorded : Recorded plan origin source done state)
    (feeding : Feeding plan state later) : Recorded plan origin source done later := by
  obtain ⟨imprints, imprinted, records, within⟩ := recorded
  have imprinted := imprinted.fed feeding
  rw [← feeding.directories] at imprinted records
  exact ⟨imprints, imprinted, records, within⟩

/-- Nothing has been recorded yet, and the index template stands at its start. -/
structure Unrecorded (plan : Plan) (origin : FileSystem) (source : Option String) (state : State) :
    Prop where
  afield : Afield plan origin none .empty state
  index : Option.Rel (Rewinds origin) source state.index
  directories : state.report.directories = #[]

theorem Unrecorded.recorded (unrecorded : Unrecorded plan origin source state) :
    Recorded plan origin source [] state := by
  refine ⟨[], ⟨unrecorded.index, rfl, by simp, ?_⟩, ?_, List.nil_sublist _⟩
  · intro location imprint last
    cases last
  · rw [unrecorded.directories]
    exact ⟨rfl, by simp, by simp⟩

section
variable {files : FileSystem}

end

section
variable {files : FileSystem} {report : Report}

/-- Once the feeds are closed, those that have been written are in the report. -/
theorem State.FeedsAt.written {location : Location} (fed : state.FeedsAt plan location)
    (closed : ∀ kind, state.feed? kind = none) :
    ∃ path ∈ state.report.outputs, ∃ node, state.files.find path = .ok (location, node) := by
  obtain ⟨kind, opened | done, node, found, _⟩ := fed
  · rw [closed] at opened
    cases opened
  · exact ⟨_, done, node, found⟩

end

end

/-- A root with a directory in it and a link to that directory. -/
def linked : FileSystem :=
  ⟨[], [
    (["site"], .directory),
    (["site", ".index.html"], .file "@(pwd)\x7b/\x7d".toUTF8),
    (["site", "a"], .directory),
    (["site", "b"], .link "a")]⟩

/-- A root whose index lies where its news feed does. -/
def crossed : FileSystem :=
  ⟨[], [
    (["site"], .directory),
    (["site", ".index.html"], .file "index".toUTF8),
    (["site", ".newsfeed.rss"], .file "head\n~\n~\ntail".toUTF8),
    (["site", "index.html"], .link "newsfeed.rss")]⟩

/-- The feed is written over the index. -/
example :
    ((build ⟨"site", .stock, 0, 100⟩ crossed).map fun built =>
      built.2.readText "site/index.html") = some (.ok "head\ntail") := by
  decide +kernel

end SiteIndex.Build

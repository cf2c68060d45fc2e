import SiteIndex.Listing.Breadcrumbs
import SiteIndex.Listing.Visit
import SiteIndex.News.Item
import SiteIndex.Survey.Report
import SiteIndex.Template.Mistakes
import SiteIndex.Template.Separators

/-!
The survey of a content tree. It looks at the templates and then visits every directory, parents
before children, without writing anything. A directory that cannot be read is passed over, unless it
is the root.
-/

namespace SiteIndex.Survey

open SiteIndex.Listing SiteIndex.Text

/-- The state of the template `name`; only a `sectioned` one is ever divided. -/
def inspect (files : FileSystem) (root name output : String) (sectioned : Bool) :
    Except SurveyError TemplateStatus :=
  match files.readText (Path.join root name) with
  | .error .notFound => .ok ⟨name, output, false, false, [], false⟩
  | .error cause => .error (.unreadable (Path.join root name) cause)
  | .ok source =>
      let mistakes := Template.mistakes source
      .ok ⟨name, output, true, sectioned && (Template.separators source).length == 2,
        mistakes.unknownNames, mistakes.unterminated⟩

/-- The first line of the file at `path`, without blanks at its end. -/
def firstLineOf? (files : FileSystem) (path : String) : Option String :=
  match files.readText path with
  | .error _ => none
  | .ok text => (firstLine? text.toList).map fun line => String.ofList (trimEndBlank line)

def listEntry (files : FileSystem) (conventions : Conventions) (directory : String)
    (entry : Entry) : ListedEntry where
  name := entry.name
  isDirectory := entry.isDirectory
  sizeKb := entry.sizeKb
  description := firstLineOf? files
    (Sidecar.descriptionPath conventions directory entry.name entry.isDirectory)

/-- The news that a sidecar makes in the directory with the given way from the root. -/
def listNews? (files : FileSystem) (conventions : Conventions) (directory way sidecar : String) :
    Option ListedNews :=
  match News.Item.load files conventions directory sidecar with
  | .error _ => none
  | .ok item =>
      some ⟨way ++ item.name, item.date.text, item.title, files.isFile item.target⟩

/-- How far a walk has come. -/
structure Progress where
  arena : Arena
  directories : Array ListedDirectory
  news : Array ListedNews

/-- Visits the directories that the cursor of `id` selects from here on, `limit` at the most. -/
def visitChildren (visit : (name : String) → Progress → Except SurveyError Progress) (id : Nat) :
    (limit : Nat) → Progress → Except SurveyError Progress
  | 0, progress => .ok progress
  | limit + 1, progress =>
      match progress.arena.nextDirectory id with
      | (none, arena) => .ok { progress with arena }
      | (some name, arena) => do
          let progress ← visit name { progress with arena }
          visitChildren visit id limit progress

/-- Visits the directory at `path` and all below it, `levels` levels down at the most. -/
def visit (files : FileSystem) (settings : Settings) :
    (levels : Nat) → (parent : Option Nat) → (path : String) → Progress →
      Except SurveyError Progress
  | 0, _, _, progress => .ok progress
  | levels + 1, parent, path, progress =>
      match progress.arena.visit files settings parent path with
      | .error cause => if parent.isSome then .ok progress else .error (.listing cause)
      | .ok (arena, id) => do
          let (way, arena) := arena.pathString id
          let entries := ((arena.get? id).map Snapshot.entries).getD []
          let listed := entries.map (listEntry files settings.conventions path)
          let news := (newsSidecars files settings path).filterMap
            (listNews? files settings.conventions path way)
          let progress : Progress :=
            { arena := arena.resetCursor id
              directories := progress.directories.push ⟨way, listed⟩
              news := progress.news ++ news.toArray }
          let progress ← visitChildren
            (fun name => visit files settings levels (some id) (Path.join path name)) id
            (entries.length + 1) progress
          return { progress with arena := progress.arena.leave id }

def survey (files : FileSystem) (root : String) : Except SurveyError Report := do
  let settings ← match Settings.load files root with
    | .ok settings => pure settings
    | .error cause => throw (.settings cause)
  let names := settings.templates
  let outputs := settings.outputs
  let index ← inspect files root names.index outputs.index false
  let sitemap ← inspect files root names.sitemap outputs.sitemap true
  let newsfeed ← inspect files root names.newsfeed outputs.newsfeed true
  let progress ← visit files settings deepestWalk none root ⟨.empty, #[], #[]⟩
  return {
    templates := [index, sitemap, newsfeed]
    directories := progress.directories
    news := progress.news
    settings }

end SiteIndex.Survey

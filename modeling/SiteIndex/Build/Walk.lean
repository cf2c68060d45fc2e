import SiteIndex.Build.State
import SiteIndex.Listing.Visit

/-!
Building a site. The templates are read from the content root and the feeds created; then every
directory is visited, parents before children: the news found in it goes into the news feed, its
index is written, and it is entered in the site map. A template that is missing turns its output off.
A directory that cannot be read is passed over, unless it is the root.
-/

namespace SiteIndex.Build

open SiteIndex.Listing

namespace Step

/-- The text of the template `name` in the root, if there is one. -/
def readTemplate (plan : Plan) (name : String) : Step (Option String) := do
  let path := Path.join plan.root name
  match (← get).files.readText path with
  | .ok source => return some source
  | .error .notFound => return none
  | .error cause => throw (.inaccessible path cause)

/-- Opens a feed if its template is there. The file is emptied at once. -/
def openFeed (plan : Plan) (kind : FeedKind) (templateName outputName : String) : Step Unit := do
  if let some source ← readTemplate plan templateName then
    let path := Path.join plan.root outputName
    let state ← get
    match state.files.create path with
    | .error cause => throw (.inaccessible path cause)
    | .ok (files, file) =>
        let feed : Feed := ⟨templateName, .ofSource source, path, .ofFile file⟩
        set { state.setFeed kind (some feed) with files }

/-- Reads the templates, creates the feeds and writes their heads. The index is expanded as a whole
in every directory, separators included. -/
def openSite (plan : Plan) : Step Unit := do
  let templates := plan.settings.templates
  let outputs := plan.settings.outputs
  if let some source ← readTemplate plan templates.index then
    modify fun state => { state with index := some (.withLayout source .bodyOnly) }
  openFeed plan .sitemap templates.sitemap outputs.sitemap
  openFeed plan .newsfeed templates.newsfeed outputs.newsfeed
  let state ← get
  if state.index.isNone && state.sitemap.isNone && state.newsfeed.isNone then
    throw (.noTemplates plan.root templates)
  writeHead plan .sitemap
  writeHead plan .newsfeed

/-- Makes an entry in the news feed for a sidecar that can be read. -/
def announce (plan : Plan) (id : Nat) (directory way sidecar : String) : Step Unit := do
  match News.Item.load (← get).files plan.settings.conventions directory sidecar with
  | .error _ => return
  | .ok item =>
      modify fun state =>
        let entry : NewsReport := ⟨way ++ item.name, item.date.text, item.title⟩
        { state with report := { state.report with news := state.report.news.push entry } }
      writeBody plan .newsfeed id (some item)

def announceAll (plan : Plan) (id : Nat) (directory way : String) : List String → Step Unit
  | [] => return
  | sidecar :: rest => do
      announce plan id directory way sidecar
      announceAll plan id directory way rest

/-- Writes the index of a directory, and answers whether that succeeded. -/
def writeIndex (plan : Plan) (id : Nat) (directory : String) : Step Bool := do
  let state ← get
  let some template := state.index | return false
  match state.files.create (Path.join directory plan.settings.outputs.index) with
  | .error _ => return false
  | .ok (files, file) =>
      set { state with files }
      let (result, template, out) ←
        expand plan (some id) none false plan.settings.templates.index template.rewind
          (.ofFile file)
      modify fun state => { state with index := some template }
      match result with
      | .error _ => return false
      | .ok _ =>
          let (flushed, files, _) := out.flush (← get).files
          modify fun state => { state with files }
          return flushed.isOk

/-- Writes everything that belongs to one directory, and gives the number of its entries. -/
def writeDirectory (plan : Plan) (id : Nat) (directory : String) (sidecars : List String) :
    Step Nat := do
  let (way, arena) := (← get).arena.pathString id
  modify fun state => { state with arena }
  announceAll plan id directory way sidecars
  let index ← writeIndex plan id directory
  writeBody plan .sitemap id none
  let state ← get
  let snapshot := (state.arena.get? id).getD (.empty none none directory)
  let entry : DirectoryReport :=
    ⟨way, snapshot.directories.length, snapshot.files.length, index⟩
  set { state with
    arena := state.arena.resetCursor id
    report := { state.report with directories := state.report.directories.push entry } }
  return snapshot.entries.length

/-- Visits the directories that the cursor of `id` selects from here on, `limit` at the most. -/
def visitChildren (visit : (name : String) → Step Unit) (id : Nat) : (limit : Nat) → Step Unit
  | 0 => return
  | limit + 1 => do
      let (next, arena) := (← get).arena.nextDirectory id
      modify fun state => { state with arena }
      match next with
      | none => return
      | some name =>
          visit name
          visitChildren visit id limit

/-- Visits the directory at `path` and all below it, `levels` levels down at the most. -/
def visit (plan : Plan) : (levels : Nat) → (parent : Option Nat) → (path : String) → Step Unit
  | 0, _, _ => return
  | levels + 1, parent, path => do
      let state ← get
      match state.arena.visit state.files plan.settings parent path with
      | .error cause => if parent.isSome then return else throw (.listing cause)
      | .ok (arena, id) =>
          set { state with arena }
          let count ←
            writeDirectory plan id path (newsSidecars state.files plan.settings path)
          visitChildren (fun name => visit plan levels (some id) (Path.join path name)) id
            (count + 1)
          modify fun state => { state with arena := (state.arena.resetCursor id).leave id }

/-- The whole build: the heads, the walk, and the tails. -/
def buildSite (plan : Plan) : Step Report := do
  openSite plan
  visit plan deepestWalk none plan.root
  finishFeed plan .sitemap
  finishFeed plan .newsfeed
  return (← get).report

end Step

/-- Builds the site. The result comes with the files as the build leaves them; after a failure, too,
the feeds that are open are closed. -/
def build (plan : Plan) (files : FileSystem) : Option (Except BuildError Report × FileSystem) :=
  match (Step.buildSite plan).run.run (State.start files) with
  | none => none
  | some (result, state) =>
      some (result, ((state.closeFeed .sitemap).closeFeed .newsfeed).files)

/-- Loads the settings of the content root and builds the site with them. -/
def buildRoot (root : String) (now : Int) (fuel : Nat) (files : FileSystem) :
    Option (Except BuildError Report × FileSystem) :=
  match Settings.load files root with
  | .error cause => some (.error (.settings cause), files)
  | .ok settings => build ⟨root, settings, now, fuel⟩ files

end SiteIndex.Build

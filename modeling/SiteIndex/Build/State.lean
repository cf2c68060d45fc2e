import SiteIndex.Build.Report
import SiteIndex.Output.FileWriter
import SiteIndex.Template.Answer
import SiteIndex.Template.Basic

/-!
A site in the making. The site map and the news feed are feeds: files that stay open for the whole
walk, each with the template whose body goes into it again and again. A step of the build changes the
state, may fail, in which case the changes made so far stay, and has no result at all if an expansion
uses up its allowance.
-/

namespace SiteIndex.Build

open SiteIndex.Listing

structure Feed where
  templateName : String
  template : Template
  path : String
  out : BufferedFile

inductive FeedKind where
  | sitemap
  | newsfeed
  deriving DecidableEq, Repr

structure State where
  files : FileSystem
  arena : Arena
  index : Option Template
  sitemap : Option Feed
  newsfeed : Option Feed
  report : Report

namespace State

def start (files : FileSystem) : State :=
  ⟨files, .empty, none, none, none, .empty⟩

def feed? (state : State) : FeedKind → Option Feed
  | .sitemap => state.sitemap
  | .newsfeed => state.newsfeed

def setFeed (state : State) (kind : FeedKind) (feed : Option Feed) : State :=
  match kind with
  | .sitemap => { state with sitemap := feed }
  | .newsfeed => { state with newsfeed := feed }

/-- Closes a feed that is open. What waits for it is written as far as that is possible. -/
def closeFeed (state : State) (kind : FeedKind) : State :=
  match state.feed? kind with
  | none => state
  | some feed =>
      let (_, files, _) := feed.out.flush state.files
      { state.setFeed kind none with files }

end State

abbrev Step (α : Type) : Type :=
  ExceptT BuildError (StateT State Option) α

/-- What stays the same for a whole build. -/
structure Plan where
  root : String
  settings : Settings
  /-- The time that templates are told, in seconds from the start of 1970. -/
  now : Int
  /-- The allowance of each expansion. -/
  fuel : Nat

namespace Step

def noResult {α : Type} : Step α :=
  fun _ => none

/-- Expands a template into a file, and notes its diagnostics under its name. -/
def expand (plan : Plan) (directory : Option Nat) (news : Option News.Item) (suppressed : Bool)
    (name : String) (template : Template) (out : BufferedFile) :
    Step (Except FileError Template.Ending × Template × BufferedFile) := do
  let state ← get
  let context : Template.Context :=
    { conventions := plan.settings.conventions, now := plan.now, directory, news }
  let scene : Template.Scene FileWriter := ⟨state.arena, 0, ⟨state.files, out⟩⟩
  match template.expand (Template.sceneHost FileWriter.sink context) plan.fuel suppressed scene with
  | none => noResult
  | some (result, template, scene) =>
      let (diagnostics, template) := template.takeDiagnostics
      set { state with
        files := scene.out.files
        arena := scene.arena
        report := state.report.addDiagnostics name diagnostics }
      return (result, template, scene.out.out)

/-- Expands the next section of a feed that is open. -/
def expandFeed (plan : Plan) (kind : FeedKind) (directory : Option Nat) (news : Option News.Item)
    (suppressed : Bool) : Step Unit := do
  if let some feed := (← get).feed? kind then
    let (result, template, out) ←
      expand plan directory news suppressed feed.templateName feed.template feed.out
    modify fun state => state.setFeed kind (some { feed with template, out })
    if let .error cause := result then throw (.inaccessible feed.path cause)

/-- Expands the head of a feed whose template is divided. -/
def writeHead (plan : Plan) (kind : FeedKind) : Step Unit := do
  if let some feed := (← get).feed? kind then
    if feed.template.layout = .headBodyTail then
      expandFeed plan kind none none false

/-- Expands the body of a feed and goes back to where the body begins. -/
def writeBody (plan : Plan) (kind : FeedKind) (directory : Nat) (news : Option News.Item) :
    Step Unit := do
  expandFeed plan kind (some directory) news false
  modify fun state =>
    state.setFeed kind ((state.feed? kind).map fun feed =>
      { feed with template := feed.template.rewind })

/-- Passes over the body of a feed in silence, expands the tail, and closes the file. -/
def finishFeed (plan : Plan) (kind : FeedKind) : Step Unit := do
  if let some feed := (← get).feed? kind then
    if feed.template.layout = .headBodyTail then
      expandFeed plan kind none none true
      expandFeed plan kind none none false
  if let some feed := (← get).feed? kind then
    let state ← get
    match feed.out.flush state.files with
    | (.error cause, files, _) =>
        set { state.setFeed kind none with files }
        throw (.inaccessible feed.path cause)
    | (.ok _, files, _) =>
        set { state.setFeed kind none with
          files
          report := { state.report with outputs := state.report.outputs.push feed.path } }

end Step
end SiteIndex.Build

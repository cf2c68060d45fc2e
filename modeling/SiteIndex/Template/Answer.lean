import SiteIndex.Calendar
import SiteIndex.FileSystem.ReadAhead
import SiteIndex.Template.Expansion
import SiteIndex.Template.Scene

/-!
How each widget answers an invocation: what it writes, and whether its body is to be expanded. Only
`files`, `pwd` and `root` ever ask for a body. A widget that needs a directory or a news item writes
nothing where there is none, and one that copies a file writes nothing where the file is missing.
-/

namespace SiteIndex.Template

open SiteIndex.Listing SiteIndex.Text

section
variable {ε σ : Type} (sink : Sink ε σ) (context : Context)

/-- Copies the next lines that `reader` gives, `lines` of them at the most, as far as they can be
read. -/
def copyFrom : (lines : Nat) → (reader : ReadAhead) → Action ε σ Unit
  | 0, _ => pure ()
  | lines + 1, reader => do
      match reader.takeLine (← Action.files sink) with
      | .error _ => pure ()
      | .ok (line, reader) =>
          unless line.isEmpty do
            Action.writeBytes sink line
            copyFrom lines reader

/-- Copies the first lines of the file at `path`. Answers whether the file could be opened. -/
def copyLines (path : String) : Action ε σ Bool := do
  match (← Action.files sink).find path with
  | .error _ => return false
  | .ok (location, _) =>
      copyFrom sink context.conventions.maxLines (.ofLocation location)
      return true

/-- The first line of the file at `path`, if it can be read as text. -/
def linkTarget? (files : FileSystem) (path : String) : Option String :=
  match files.read path with
  | .error _ => none
  | .ok content =>
      (String.fromUTF8? (lineAt content 0)).map fun line =>
        String.ofList (line.toList.takeWhile fun c => c != '\n' && c != '\r')

/-- The long description of the directory, or the short one if there is no long one. -/
def answerContent : Action ε σ Bool := do
  if let some snapshot ← Action.snapshot? context then
    let conventions := context.conventions
    unless ← copyLines sink context (Path.join snapshot.path conventions.directoryContent) do
      discard <|
        copyLines sink context (Path.join snapshot.path conventions.directoryDescription)
  return false

def answerDate : Action ε σ Bool := do
  if let some news := context.news then
    Action.writePieces sink news.date.pieces
  return false

def answerFileAlt : Action ε σ Bool := do
  if let some snapshot ← Action.snapshot? context then
    Action.writeText sink (if snapshot.selectsDirectory then "Dir" else "File")
  return false

def answerFileDesc : Action ε σ Bool := do
  if let some snapshot ← Action.snapshot? context then
    if let some entry := snapshot.selected? then
      discard <| copyLines sink context
        (Sidecar.descriptionPath context.conventions snapshot.path entry.name entry.isDirectory)
  return false

/-- Where the selected entry leads: the target of a link, otherwise its own name. -/
def answerFileHref : Action ε σ Bool := do
  if let some snapshot ← Action.snapshot? context then
    if let some entry := snapshot.selected? then
      let files ← Action.files sink
      let target :=
        if Sidecar.isLink context.conventions entry.name then
          linkTarget? files (Path.join snapshot.path entry.name)
        else none
      Action.writeText sink (target.getD entry.name)
  return false

/-- The entry's own icon, or else the generic one, which lies at the root: that need not be the
server's root, so the way there is relative. -/
def answerFileIcon : Action ε σ Bool := do
  if let some snapshot ← Action.snapshot? context then
    if let some entry := snapshot.selected? then
      let icon := Sidecar.iconName context.conventions entry.name
      if (← Action.files sink).isFile (Path.join snapshot.path icon) then
        Action.writeText sink icon
      else
        let levels ← Action.levelsBelowRoot context
        Action.writePieces sink (List.replicate levels ["..", "/"]).flatten
        Action.writeText sink (Sidecar.genericIcon context.conventions entry.isDirectory)
  return false

def answerFileName : Action ε σ Bool := do
  if let some snapshot ← Action.snapshot? context then
    Action.writeText sink snapshot.selectedName
  return false

/-- Selects the next entry. When a body finds nothing selected, an inner invocation has come to the
end of the listing, and to start again would never end. -/
def answerFiles (repeating : Bool) : Action ε σ Bool := do
  let scene ← get
  match context.directory with
  | none => return false
  | some id =>
      match scene.arena.get? id with
      | none => return false
      | some snapshot =>
          if repeating && snapshot.cursor == .unset then return false
          else
            let (selects, arena) := scene.arena.advance id
            set { scene with arena }
            return selects

def answerFileSize : Action ε σ Bool := do
  if let some snapshot ← Action.snapshot? context then
    if let some entry := snapshot.selected? then
      unless entry.isDirectory do
        Action.writePieces sink [" (", toString entry.sizeKb, " KB)"]
  return false

def answerNews : Action ε σ Bool := do
  if let some news := context.news then
    discard <| copyLines sink context news.target
  return false

def answerNewsName : Action ε σ Bool := do
  if let some news := context.news then
    Action.writeText sink news.name
  return false

def answerNow : Action ε σ Bool := do
  Action.writeText sink (Calendar.timestamp context.now)
  return false

/-- The next directory name on the way from the root. Every invocation starts the way anew. -/
def answerPwd (repeating : Bool) : Action ε σ Bool := do
  match context.directory with
  | none => return false
  | some id =>
      let scene ← get
      let arena := if repeating then scene.arena else scene.arena.markWay id
      let (segment, arena) := arena.nextSegment id
      set { scene with arena }
      match segment with
      | none => return false
      | some name =>
          Action.writeText sink name
          return true

/-- One step up for every level below the root. -/
def answerRoot (repeating : Bool) : Action ε σ Bool := do
  unless repeating do
    let levels ← Action.levelsBelowRoot context
    modify fun scene => { scene with rootSteps := levels }
  match (← get).rootSteps with
  | 0 => return false
  | steps + 1 =>
      modify fun scene => { scene with rootSteps := steps }
      Action.writeText sink ".."
      return true

def answerTitle : Action ε σ Bool := do
  if let some news := context.news then
    Action.writeText sink news.title
  return false

def answer (widget : Widget) (repeating : Bool) : Action ε σ Bool :=
  match widget with
  | .content => answerContent sink context
  | .date => answerDate sink context
  | .fileAlt => answerFileAlt sink context
  | .fileDesc => answerFileDesc sink context
  | .fileHref => answerFileHref sink context
  | .fileIcon => answerFileIcon sink context
  | .fileName => answerFileName sink context
  | .files => answerFiles context repeating
  | .fileSize => answerFileSize sink context
  | .news => answerNews sink context
  | .newsName => answerNewsName sink context
  | .now => answerNow sink context
  | .pwd => answerPwd sink context repeating
  | .root => answerRoot sink context repeating
  | .title => answerTitle sink context

/-- The host in which templates are expanded: text and widgets write to the same sink. -/
def sceneHost : Host ε (Scene σ) where
  write bytes scene := Action.writeBytes sink bytes scene
  call widget repeating scene := answer sink context widget repeating scene

end

end SiteIndex.Template

import SiteIndex.Listing.Breadcrumbs
import SiteIndex.News.Item
import SiteIndex.Output.Sink

/-!
What the widgets of an expansion see and change. The context stays as it is for the whole expansion;
the scene holds the snapshots, with their cursors and marks, and the sink.
-/

namespace SiteIndex.Template

open SiteIndex.Listing

structure Context where
  conventions : Conventions
  /-- The time, in seconds from the start of 1970. -/
  now : Int
  /-- The snapshot that the template is expanded for. -/
  directory : Option Nat
  news : Option News.Item

structure Scene (σ : Type) where
  arena : Arena
  /-- The steps up to the root that are still to be written. -/
  rootSteps : Nat
  out : σ

/-- Reads and changes the scene. A failure keeps the changes made before it. -/
abbrev Action (ε σ α : Type) : Type :=
  ExceptT ε (StateM (Scene σ)) α

namespace Action

variable {ε σ : Type}

def writeBytes (sink : Sink ε σ) (bytes : ByteArray) : Action ε σ Unit := fun scene =>
  if bytes.isEmpty then (.ok (), scene)
  else
    let (result, out) := sink.write bytes scene.out
    (result, { scene with out })

def writeText (sink : Sink ε σ) (text : String) : Action ε σ Unit :=
  writeBytes sink text.toUTF8

def writePieces (sink : Sink ε σ) : List String → Action ε σ Unit
  | [] => pure ()
  | piece :: rest => do
      writeText sink piece
      writePieces sink rest

def files (sink : Sink ε σ) : Action ε σ FileSystem := do
  return sink.files (← get).out

def snapshot? (context : Context) : Action ε σ (Option Snapshot) := do
  let scene ← get
  return context.directory.bind scene.arena.get?

def levelsBelowRoot (context : Context) : Action ε σ Nat := do
  let scene ← get
  return (context.directory.map scene.arena.levelsBelowRoot).getD 0

end Action
end SiteIndex.Template

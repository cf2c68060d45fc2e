import SiteIndex.CommandLine.Run
import Std.Time.DateTime.Timestamp

/-!
The program. It takes the files below the content root into a value, does its work on that value and
writes the files that have changed. A symbolic link is taken for the place that it leads to in the
end, which is taken in as well.
-/

namespace SiteIndex.Main

/-- Enough for every expansion that ends. -/
def allowance : Nat := 1000000000000

/-- The path from the top directory to a location. -/
def pathOf (location : Location) : String :=
  "/" ++ String.intercalate "/" location

def locationOf (path : String) : Location :=
  (Path.names path).filter (· ≠ "")

structure Intake where
  files : FileSystem
  /-- The locations that have been taken in together with everything below them. -/
  done : List Location

/-- Where `location` leads to once all links are followed, unless nothing is there. -/
def destination? (location : Location) : IO (Option Location) := do
  match ← (IO.FS.realPath (pathOf location)).toBaseIO with
  | .ok path => return some (locationOf (toString path))
  | .error _ => return none

def put (location : Location) (node : Node) : StateT Intake IO Unit :=
  modify fun intake => { intake with files := intake.files.put location node }

/-- Puts the directories on the way to `location`. -/
def putParents (location : Location) : StateT Intake IO Unit := do
  for length in List.range location.length do
    unless length = 0 do
      put (location.take length) .directory

/-- Puts a link to `target`, or one that leads nowhere. -/
def putLink (location : Location) (target : Option Location) : StateT Intake IO Unit :=
  put location (.link (pathOf (target.getD ["dev", "null", "nowhere"])))

/-- Takes in what stands at `location`, which no link lies on the way to, and everything below. -/
partial def take (location : Location) : StateT Intake IO Unit := do
  unless location ∈ (← get).done do
    modify fun intake => { intake with done := location :: intake.done }
    let path ← IO.FS.realPath (pathOf location)
    match (← path.metadata).type with
    | .dir =>
        put location .directory
        for entry in ← path.readDir do
          let there := location ++ [entry.fileName]
          let target ← destination? there
          unless target = some there do
            putLink there target
            putParents (target.getD [])
          if let some target := target then
            take target
    | .file => put location (.file (← IO.FS.readBinFile path))
    | _ =>
        if location = ["dev", "full"] then
          put location .fullDevice

/-- Takes in what the names lead to from the directory `here`, and the links on the way. -/
def takeAlong (here : Location) : List String → StateT Intake IO Unit
  | [] => do
      putParents here
      take here
  | name :: rest => do
      if name = "" ∨ name = "." then takeAlong here rest
      else if name = ".." then takeAlong here.dropLast rest
      else
        let there := here ++ [name]
        putParents there
        let target ← destination? there
        unless target = some there do
          putLink there target
        if let some target := target then
          putParents target
          let path ← IO.FS.realPath (pathOf target)
          if (← path.metadata).type == .dir then
            put target .directory
            takeAlong target rest
          else take target

/-- The files that a command line speaks of. -/
def filesFor (arguments : List String) : IO FileSystem := do
  let here := locationOf (toString (← IO.currentDir))
  let files : FileSystem := { FileSystem.empty with workingDirectory := here }
  match CommandLine.readArguments arguments with
  | .ok (.run invocation) =>
      let start := if Path.isAbsolute invocation.root then [] else here
      let (_, intake) ← (takeAlong start (Path.names invocation.root)).run ⟨files, []⟩
      return intake.files
  | _ => return files

def run (arguments : List String) : IO UInt32 := do
  let files ← filesFor arguments
  let now := (← Std.Time.Timestamp.now).toSecondsSinceUnixEpoch.val
  match CommandLine.run arguments now allowance files with
  | none =>
      IO.eprintln "a template does not come to an end"
      return 1
  | some result =>
      for (location, content) in result.files.changesSince files do
        IO.FS.writeBinFile (pathOf location) content
      IO.print result.output
      if let some complaint := result.complaint then
        IO.eprintln complaint
      return result.exitCode.toUInt32

end SiteIndex.Main

def main (arguments : List String) : IO UInt32 :=
  SiteIndex.Main.run arguments

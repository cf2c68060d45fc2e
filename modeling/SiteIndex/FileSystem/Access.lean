import SiteIndex.FileSystem.Resolution

/-!
Reading, listing, creating and writing files by path. Opening a directory to read succeeds and
the reading fails; opening it to write fails at once. Creating a file empties one that exists.
-/

namespace SiteIndex

/-- A file open for writing, and how many bytes lie before the next one written. -/
structure OpenFile where
  location : Location
  offset : Nat
  deriving DecidableEq, Repr

namespace FileSystem

def content (files : FileSystem) (location : Location) : Except FileError ByteArray :=
  match files.node? location with
  | some (.file content) => .ok content
  | some .directory => .error .isDirectory
  | some .fullDevice => .error .outOfMemory
  | some (.link _) | none => .error .notFound

def read (files : FileSystem) (path : String) : Except FileError ByteArray := do
  let (location, _) ← files.find path
  files.content location

def readText (files : FileSystem) (path : String) : Except FileError String := do
  let bytes ← files.read path
  match String.fromUTF8? bytes with
  | some text => .ok text
  | none => .error .invalidText

def isFile (files : FileSystem) (path : String) : Bool :=
  match files.find path with
  | .ok (_, .file _) => true
  | _ => false

/-- The names in the directory at `path`, in ascending order. -/
def list (files : FileSystem) (path : String) : Except FileError (List String) :=
  match files.find path with
  | .ok (location, .directory) => .ok (files.childNames location)
  | .ok _ => .error .notDirectory
  | .error cause => .error cause

/-- Opens the file at `path` for writing from its start, with nothing in it. -/
def create (files : FileSystem) (path : String) : Except FileError (FileSystem × OpenFile) :=
  match files.resolve .create path with
  | .ok (.existing _ .directory) => .error .isDirectory
  | .ok (.existing location (.file _)) =>
      .ok (files.put location (.file .empty), ⟨location, 0⟩)
  | .ok (.existing location _) => .ok (files, ⟨location, 0⟩)
  | .ok (.missing location) => .ok (files.put location (.file .empty), ⟨location, 0⟩)
  | .error cause => .error cause

/-- `bytes` laid over `content` from `offset` on; zeros fill what lies between. -/
def overwrite (content : ByteArray) (offset : Nat) (bytes : ByteArray) : ByteArray :=
  let gap : ByteArray := ⟨Array.replicate (offset - content.size) 0⟩
  content.extract 0 offset ++ gap ++ bytes ++ content.extract (offset + bytes.size) content.size

def write (files : FileSystem) (file : OpenFile) (bytes : ByteArray) :
    Except FileError (FileSystem × OpenFile) :=
  if bytes.isEmpty then .ok (files, file)
  else match files.node? file.location with
    | some (.file content) =>
        .ok (files.put file.location (.file (overwrite content file.offset bytes)),
          { file with offset := file.offset + bytes.size })
    | some .fullDevice => .error .noSpace
    | some .directory => .error .isDirectory
    | some (.link _) | none => .error .notFound

/-- Makes the directory at `path` and those on the way to it. -/
def makeDirectories (files : FileSystem) (path : String) : Except FileError FileSystem :=
  let steps := (Path.names path).foldl (fun (done : List String) name =>
    match done.getLast? with
    | none => [if name.isEmpty then "/" else name]
    | some last => done ++ [Path.join last name]) []
  steps.foldlM (fun files step =>
    match files.resolve .lookUp step with
    | .ok (.existing _ .directory) => .ok files
    | .ok (.existing _ _) => .error .notDirectory
    | .ok (.missing location) => .ok (files.put location .directory)
    | .error cause => .error cause) files

/-- The files that are new since `before` or have a new content. -/
def changesSince (files before : FileSystem) : List (Location × ByteArray) :=
  files.nodes.filterMap fun (location, node) =>
    match node, before.node? location with
    | .file content, some (.file old) =>
        if content.data = old.data then none else some (location, content)
    | .file content, _ => some (location, content)
    | _, _ => none

end FileSystem
end SiteIndex

import SiteIndex.FileSystem.Basic

/-!
From a path to what it names. Names are followed one by one; `.` and empty names stay, `..` goes to
the parent, and a symbolic link is replaced by its target, up to forty of them on one path. A path
under which a file is to be created must not end in a slash, nor must a link that it ends in.
-/

namespace SiteIndex.FileSystem

def maxLinks : Nat := 40
def maxNameBytes : Nat := 255
/-- A path of this many bytes is refused as a whole. -/
def pathByteLimit : Nat := 4096

inductive Target where
  | existing (location : Location) (node : Node)
  /-- Nothing is there, but the directory that could hold it exists. -/
  | missing (location : Location)

inductive Purpose where
  | lookUp
  | create
  deriving DecidableEq, Repr

/-- Whether the names after one say only that slashes follow it. -/
def isSlashes (names : List String) : Bool :=
  !names.isEmpty && names.all (·.isEmpty)

/-- Follows `names` from the directory `here`. What a link leads to is left to `followLink`, which is
given the directory to start from and the names to follow. -/
def walkNames (files : FileSystem) (purpose : Purpose)
    (followLink : Location → List String → Except FileError Target) :
    Location → List String → Except FileError Target
  | here, [] => .ok (.existing here .directory)
  | here, name :: rest =>
      if name = "" ∨ name = "." then walkNames files purpose followLink here rest
      else if name = ".." then walkNames files purpose followLink here.dropLast rest
      else if purpose = .create ∧ isSlashes rest then .error .isDirectory
      else if maxNameBytes < name.utf8ByteSize then .error .nameTooLong
      else
        let there := here ++ [name]
        match files.node? there with
        | none => if rest.isEmpty then .ok (.missing there) else .error .notFound
        | some .directory => walkNames files purpose followLink there rest
        | some (.link target) =>
            followLink (if Path.isAbsolute target then [] else here) (Path.names target ++ rest)
        | some node =>
            if rest.isEmpty then .ok (.existing there node) else .error .notDirectory

/-- Follows `names`, and `links` symbolic links at the most. -/
def walk (files : FileSystem) (purpose : Purpose) :
    (links : Nat) → Location → List String → Except FileError Target
  | 0 => files.walkNames purpose fun _ _ => .error .tooManyLinks
  | links + 1 => files.walkNames purpose (files.walk purpose links)

def resolve (files : FileSystem) (purpose : Purpose) (path : String) : Except FileError Target :=
  if '\x00' ∈ path.toList then .error .nulInName
  else if path.isEmpty then .error .notFound
  else if pathByteLimit ≤ path.utf8ByteSize then .error .nameTooLong
  else
    files.walk purpose maxLinks (if Path.isAbsolute path then [] else files.workingDirectory)
      (Path.names path)

/-- What stands at `path`, links followed. -/
def find (files : FileSystem) (path : String) : Except FileError (Location × Node) :=
  match files.resolve .lookUp path with
  | .ok (.existing location node) => .ok (location, node)
  | .ok (.missing _) => .error .notFound
  | .error cause => .error cause

end SiteIndex.FileSystem

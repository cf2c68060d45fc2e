import SiteIndex.FileSystem.Access
import SiteIndex.Listing.Snapshot

/-!
The snapshots along a walk, each known by its number. A snapshot is added when a directory is entered
and dropped, with all that were added after it, when the directory is left. The numbers of dropped
snapshots are given out again.
-/

namespace SiteIndex.Listing

inductive ListingError where
  | unreadable (path : String) (cause : FileError)
  | noSelection
  | unknownSnapshot (id : Nat)
  deriving DecidableEq, Repr

def ListingError.message : ListingError → String
  | unreadable path cause => "IO error reading " ++ path ++ ": " ++ cause.message
  | noSelection => "parent directory has no selected entry to enter"
  | unknownSnapshot id => "no snapshot with id " ++ toString id

structure Arena where
  snapshots : List Snapshot
  deriving DecidableEq, Repr

namespace Arena

def empty : Arena :=
  ⟨[]⟩

def depth (arena : Arena) : Nat :=
  arena.snapshots.length

def get? (arena : Arena) (id : Nat) : Option Snapshot :=
  arena.snapshots[id]?

def get (arena : Arena) (id : Nat) : Except ListingError Snapshot :=
  match arena.get? id with
  | some snapshot => .ok snapshot
  | none => .error (.unknownSnapshot id)

/-- Changes the snapshot with this number, if there is one. -/
def update (arena : Arena) (id : Nat) (change : Snapshot → Snapshot) : Arena :=
  ⟨arena.snapshots.modify id change⟩

def push (arena : Arena) (snapshot : Snapshot) : Arena :=
  ⟨arena.snapshots ++ [snapshot]⟩

def leave (arena : Arena) (id : Nat) : Arena :=
  ⟨arena.snapshots.take id⟩

/-- Moves the cursor of a snapshot on. No snapshot has no next entry. -/
def advance (arena : Arena) (id : Nat) : Bool × Arena :=
  match arena.get? id with
  | none => (false, arena)
  | some snapshot => (snapshot.advance.1, arena.update id fun s => s.advance.2)

def resetCursor (arena : Arena) (id : Nat) : Arena :=
  arena.update id Snapshot.resetCursor

def isRoot (arena : Arena) (id : Nat) : Bool :=
  (arena.get? id).any fun snapshot => snapshot.parent.isNone

/-- The listed form of what stands at `path`, links followed; nothing if that leads nowhere. -/
def entryAt? (files : FileSystem) (path name : String) : Option Entry :=
  match files.find path with
  | .ok (_, .file content) => some (.ofSize name content.size false)
  | .ok (_, .directory) => some (.ofSize name 0 true)
  | .ok (_, _) => some (.ofSize name 0 false)
  | .error _ => none

/-- The name by which `parent` has the directory being entered selected. -/
def selectedIn (arena : Arena) : (parent : Option Nat) → Except ListingError (Option String)
  | none => .ok none
  | some id =>
      match arena.get id with
      | .error cause => .error cause
      | .ok snapshot =>
          match snapshot.selected? with
          | some entry => .ok (some entry.name)
          | none => .error .noSelection

/-- Adds a snapshot of the directory at `path`, the selected entry of `parent` if there is a parent,
with those of its entries that `accepts` lets in, and gives its number. -/
def enter (arena : Arena) (files : FileSystem) (parent : Option Nat) (path : String)
    (accepts : String → Bool) : Except ListingError (Arena × Nat) :=
  match arena.selectedIn parent with
  | .error cause => .error cause
  | .ok entryName =>
      match files.list path with
      | .error cause => .error (.unreadable path cause)
      | .ok names =>
          let listed := (names.filter accepts).filterMap fun name =>
            entryAt? files (Path.join path name) name
          .ok (arena.push (listed.foldl Snapshot.insert (.empty parent entryName path)),
            arena.depth)

end Arena
end SiteIndex.Listing

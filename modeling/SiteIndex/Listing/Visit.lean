import SiteIndex.Inclusion
import SiteIndex.Listing.Arena

/-!
What a walk over a content tree does in every directory: it takes a snapshot of the entries that are
listed, notes the news sidecars, and goes on to the directories listed, in the order of the cursor.
-/

namespace SiteIndex.Listing

/-- Every step down makes the path of a directory longer, and longer paths than this are refused, so
no walk goes down further. -/
def deepestWalk : Nat := FileSystem.pathByteLimit

/-- The news sidecars in the directory at `path`, in the order of their names. -/
def newsSidecars (files : FileSystem) (settings : Settings) (path : String) : List String :=
  match files.list path with
  | .ok names => names.filter fun name => Inclusion.classify files settings path name == .news
  | .error _ => []

namespace Arena

/-- Adds a snapshot of the entries listed in the directory at `path`. -/
def visit (arena : Arena) (files : FileSystem) (settings : Settings) (parent : Option Nat)
    (path : String) : Except ListingError (Arena × Nat) :=
  arena.enter files parent path fun name =>
    Inclusion.classify files settings path name == .include

/-- Moves the cursor on and gives the name of the directory that it selects then. After the last
directory there is none. -/
def nextDirectory (arena : Arena) (id : Nat) : Option String × Arena :=
  match arena.advance id with
  | (false, arena) => (none, arena)
  | (true, arena) =>
      let selected := (arena.get? id).bind Snapshot.selected?
      ((selected.filter Entry.isDirectory).map Entry.name, arena)

end Arena
end SiteIndex.Listing

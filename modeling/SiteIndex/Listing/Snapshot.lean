import SiteIndex.Listing.Entry

/-!
A snapshot of one directory: its listing, a cursor that goes through all directories and then all
files, and the mark by which a walk down from the root finds its way. When the cursor has passed the
last entry it selects nothing, and from there it starts again.
-/

namespace SiteIndex.Listing

inductive Cursor where
  | unset
  | directory (index : Nat)
  | file (index : Nat)
  deriving DecidableEq, Repr

structure Snapshot where
  parent : Option Nat
  /-- The name under which the parent lists this directory. -/
  entryName : Option String
  path : String
  directories : List Entry
  files : List Entry
  cursor : Cursor
  /-- The child that the walk goes down to. -/
  mark : Option Nat
  deriving DecidableEq, Repr

namespace Snapshot

def empty (parent : Option Nat) (entryName : Option String) (path : String) : Snapshot :=
  ⟨parent, entryName, path, [], [], .unset, none⟩

def insert (snapshot : Snapshot) (entry : Entry) : Snapshot :=
  if entry.isDirectory then
    { snapshot with directories := insertEntry entry snapshot.directories }
  else { snapshot with files := insertEntry entry snapshot.files }

/-- The listing in the order of the cursor. -/
def entries (snapshot : Snapshot) : List Entry :=
  snapshot.directories ++ snapshot.files

def selected? (snapshot : Snapshot) : Option Entry :=
  match snapshot.cursor with
  | .unset => none
  | .directory i => snapshot.directories[i]?
  | .file i => snapshot.files[i]?

def selectedName (snapshot : Snapshot) : String :=
  (snapshot.selected?.map Entry.name).getD ""

def selectsDirectory (snapshot : Snapshot) : Bool :=
  snapshot.selected?.any Entry.isDirectory

def firstFile (snapshot : Snapshot) : Cursor :=
  if snapshot.files.isEmpty then .unset else .file 0

def firstEntry (snapshot : Snapshot) : Cursor :=
  if snapshot.directories.isEmpty then snapshot.firstFile else .directory 0

def nextCursor (snapshot : Snapshot) : Cursor :=
  match snapshot.cursor with
  | .unset => snapshot.firstEntry
  | .directory i =>
      if i + 1 < snapshot.directories.length then .directory (i + 1) else snapshot.firstFile
  | .file i => if i + 1 < snapshot.files.length then .file (i + 1) else .unset

/-- Moves the cursor on, and answers whether it selects an entry now. -/
def advance (snapshot : Snapshot) : Bool × Snapshot :=
  (snapshot.nextCursor != .unset, { snapshot with cursor := snapshot.nextCursor })

def resetCursor (snapshot : Snapshot) : Snapshot :=
  { snapshot with cursor := .unset }

end Snapshot
end SiteIndex.Listing

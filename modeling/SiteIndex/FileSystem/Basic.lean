import SiteIndex.FileSystem.Path

/-!
A file system as a value: what stands at each location, and the directory that relative paths start
from. A location is the list of names that lead to it from the top directory. Changing what stands
at one location leaves every other as it was.
-/

namespace SiteIndex

inductive FileError where
  | notFound
  | notDirectory
  | isDirectory
  | noSpace
  | nameTooLong
  | tooManyLinks
  | nulInName
  | invalidText
  | outOfMemory
  deriving DecidableEq, Repr

namespace FileError

def message : FileError → String
  | notFound => "No such file or directory (os error 2)"
  | notDirectory => "Not a directory (os error 20)"
  | isDirectory => "Is a directory (os error 21)"
  | noSpace => "No space left on device (os error 28)"
  | nameTooLong => "File name too long (os error 36)"
  | tooManyLinks => "Too many levels of symbolic links (os error 40)"
  | nulInName => "file name contained an unexpected NUL byte"
  | invalidText => "stream did not contain valid UTF-8"
  | outOfMemory => "out of memory"

end FileError

abbrev Location := List String

inductive Node where
  | directory
  | file (content : ByteArray)
  /-- A symbolic link, which stands for the path `target` seen from the link's directory. -/
  | link (target : String)
  /-- A device that has zeros to read without end and no room for anything. -/
  | fullDevice

structure FileSystem where
  workingDirectory : Location
  nodes : List (Location × Node)

namespace FileSystem

def empty : FileSystem :=
  ⟨[], []⟩

/-- What stands at `location`. The top directory is always there. -/
def node? (files : FileSystem) (location : Location) : Option Node :=
  if location = [] then some .directory else files.nodes.lookup location

/-- Replaces what stands at `location`, or adds it behind the rest. -/
def putNode (location : Location) (node : Node) :
    List (Location × Node) → List (Location × Node)
  | [] => [(location, node)]
  | (other, old) :: rest =>
      if location = other then (other, node) :: rest
      else (other, old) :: putNode location node rest

def put (files : FileSystem) (location : Location) (node : Node) : FileSystem :=
  { files with nodes := putNode location node files.nodes }

private theorem lookup_cons_eq (location other : Location) (node : Node)
    (rest : List (Location × Node)) :
    ((location, node) :: rest).lookup other =
      if other = location then some node else rest.lookup other := by
  rw [List.lookup_cons]
  by_cases h : other = location
  · simp [h]
  · rw [if_neg h, beq_eq_false_iff_ne.mpr h]

private theorem lookup_putNode (location other : Location) (node : Node)
    (nodes : List (Location × Node)) :
    (putNode location node nodes).lookup other =
      if other = location then some node else nodes.lookup other := by
  induction nodes with
  | nil => simp only [putNode, lookup_cons_eq, List.lookup_nil]
  | cons head rest ih =>
      obtain ⟨key, old⟩ := head
      unfold putNode
      split
      · next h => subst h; simp only [lookup_cons_eq]; split <;> rfl
      · next hne =>
        rw [lookup_cons_eq, lookup_cons_eq, ih]
        by_cases h : other = key
        · subst h; simp [Ne.symm hne]
        · simp [h]

theorem node?_put (files : FileSystem) (location other : Location) (node : Node)
    (h : location ≠ []) :
    (files.put location node).node? other =
      if other = location then some node else files.node? other := by
  unfold node? put
  by_cases h' : other = [] <;> simp_all [lookup_putNode, Ne.symm h]

/-- Puts `name` in front of the first name that does not come before it. -/
def insertName (name : String) : List String → List String
  | [] => [name]
  | other :: rest => if name ≤ other then name :: other :: rest else other :: insertName name rest

/-- The names of the entries of the directory at `location`, in ascending order. -/
def childNames (files : FileSystem) (location : Location) : List String :=
  let names := files.nodes.filterMap fun (other, _) =>
    if other.dropLast = location then other.getLast? else none
  names.foldr insertName []

end FileSystem
end SiteIndex

import SiteIndex.Proofs.FileSystem.Following

/-!
File systems that look the same from outside. The outline of a file system is what is left of it when
every file is emptied. Which location a path leads to, and which names a directory lists, depends on
the outline alone.
-/

namespace SiteIndex

/-- A node without what is in it, if it is a file. -/
def Node.outline : Node → Node
  | .file _ => .file .empty
  | node => node

namespace FileSystem

def Target.outline : Target → Target
  | .existing location node => .existing location node.outline
  | .missing location => .missing location

def outline (files : FileSystem) : FileSystem :=
  { files with nodes := files.nodes.map fun (location, node) => (location, node.outline) }

theorem node?_outline (files : FileSystem) (location : Location) :
    files.outline.node? location = (files.node? location).map Node.outline := by
  by_cases top : location = []
  · simp [node?, top, Node.outline]
  · simp only [node?, if_neg top, outline]
    induction files.nodes with
    | nil => rfl
    | cons head rest ih =>
        obtain ⟨other, node⟩ := head
        simp only [List.map_cons, List.lookup_cons]
        cases location == other with
        | true => rfl
        | false => exact ih

theorem childNames_outline (files : FileSystem) (location : Location) :
    files.outline.childNames location = files.childNames location := by
  simp only [childNames, outline, List.filterMap_map]
  rfl

theorem isDirectory_outline (node : Node) : node.outline = .directory ↔ node = .directory := by
  cases node <;> simp [Node.outline]

theorem writable_outline {node : Node} (writable : node.Writable) : node.outline.Writable := by
  cases writable with
  | file content => exact .file _
  | device => exact .device

theorem walkNames_outline (files : FileSystem) (purpose : Purpose)
    {followLink followLink' : Location → List String → Except FileError Target}
    (alike : ∀ here names,
      followLink' here names = (followLink here names).map Target.outline)
    (here : Location) (names : List String) :
    files.outline.walkNames purpose followLink' here names =
      (files.walkNames purpose followLink here names).map Target.outline := by
  have walks : WalksTo files purpose followLink here names _ := walksTo_walkNames here names
  rw [← walksTo_iff]
  generalize files.walkNames purpose followLink here names = outcome at walks ⊢
  have stands {location : Location} {node : Option Node} (found : files.node? location = node) :
      files.outline.node? location = node.map Node.outline := by
    rw [node?_outline, found]
  induction walks with
  | done here => exact .done here
  | stay stays _ ih => exact .stay stays ih
  | up up _ ih => exact .up up ih
  | slashes moves down create slashes => exact .slashes moves down create slashes
  | long moves down ends long => exact .long moves down ends long
  | enter looks found _ ih => exact .enter looks (stands found) ih
  | link looks found followed => exact .link looks (stands found) (followed ▸ alike _ _)
  | missing looks absent last => exact .missing looks (stands absent) last
  | lost looks absent more => exact .lost looks (stands absent) more
  | reach looks found writable last => exact .reach looks (stands found) (writable_outline writable) last
  | blocked looks found writable more => exact .blocked looks (stands found) (writable_outline writable) more

theorem walk_outline (files : FileSystem) (purpose : Purpose) (links : Nat) (here : Location)
    (names : List String) :
    files.outline.walk purpose links here names =
      (files.walk purpose links here names).map Target.outline := by
  induction links generalizing here names with
  | zero =>
      simp only [walk]
      refine walkNames_outline files purpose ?_ here names
      exact fun _ _ => rfl
  | succ links ih =>
      simp only [walk]
      exact walkNames_outline files purpose ih here names

theorem resolve_outline (files : FileSystem) (purpose : Purpose) (path : String) :
    files.outline.resolve purpose path =
      (files.resolve purpose path).map Target.outline := by
  simp only [resolve]
  split
  · rfl
  · split
    · rfl
    · split
      · rfl
      · exact walk_outline files purpose _ _ _

end FileSystem
end SiteIndex

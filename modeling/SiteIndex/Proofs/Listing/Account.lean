import SiteIndex.Proofs.Listing.Steady
import SiteIndex.Proofs.Listing.Trail

/-!
What a walk tells of a directory: the way to it, how many entries it has, and the news in it. Outputs
that have names of their own change nothing of that.
-/

namespace SiteIndex.Listing

open SiteIndex.FileSystem

section
variable (files : FileSystem) (settings : Settings) (root : String) (place : Location)
  (trail : List String)

/-- The listing of the directory with this trail. -/
def listingAt : Snapshot :=
  listingOf files settings none none (pathOf root trail) (place ++ trail)

def namesAt : List String :=
  (listingAt files settings root place trail).directories.map Entry.name

/-- The names of the directories listed by one that is found. -/
def Names (trail names : List String) : Prop :=
  files.find (pathOf root trail) = .ok (place ++ trail, .directory) ∧
    names = namesAt files settings root place trail

/-- The way to a directory, and how many directories and files it lists. -/
def tallyAt : String × Nat × Nat :=
  (wayOf trail, (listingAt files settings root place trail).directories.length,
    (listingAt files settings root place trail).files.length)

/-- The path, the date and the title of what a sidecar announces. -/
def headline? (sidecar : String) : Option (String × String × String) :=
  match News.Item.load files settings.conventions (pathOf root trail) sidecar with
  | .error _ => none
  | .ok item => some (wayOf trail ++ item.name, item.date.text, item.title)

def headlinesAt : List (String × String × String) :=
  (newsSidecars files settings (pathOf root trail)).filterMap
    (headline? files settings root trail)

end

section
variable {settings : Settings} {place : Location} {made filled : Location → Prop}
  {files files' : FileSystem} (reworked : Reworked place made filled files files')
  (outputs : Outputs settings place made filled) (tree : files.IsTree place) {root : String}
  {trail : List String}
  (found : files.find (pathOf root trail) = .ok (place ++ trail, .directory))
  (valid : settings.defect? = none) (apart : settings.Apart)
include reworked outputs tree found apart

include valid

omit reworked outputs valid apart in
theorem named_newsSidecars {sidecar : String}
    (announced : sidecar ∈ newsSidecars files settings (pathOf root trail)) :
    IsEntryName sidecar := by
  simp only [newsSidecars, list, found] at announced
  exact tree.named _ _ (List.prefix_append _ _)
    (node?_of_mem_childNames (List.mem_of_mem_filter announced))

end
end SiteIndex.Listing

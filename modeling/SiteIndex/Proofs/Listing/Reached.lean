import SiteIndex.Proofs.Listing.Account
import SiteIndex.Proofs.Listing.Order
import SiteIndex.Proofs.Listing.Preorder

/-!
Which directories a walk reaches: those that can be reached from the root through entries that are
listed. Each step makes the path longer, and paths that are too long are refused, so none of them lies
deeper than a walk goes.
-/

namespace SiteIndex.Listing

open SiteIndex.FileSystem

/-- An entry that is listed and is a directory. -/
def ListsDirectory (files : FileSystem) (settings : Settings) (root : String) (trail : List String)
    (name : String) : Prop :=
  ∃ entries location, files.list (pathOf root trail) = .ok entries ∧ name ∈ entries ∧
    Inclusion.classify files settings (pathOf root trail) name = .include ∧
    files.find (pathOf root (trail ++ [name])) = .ok (location, .directory)

section
variable {files : FileSystem} {settings : Settings} {root : String} {place : Location}
  {trail names : List String}

theorem Names.single {names' : List String} (first : Names files settings root place trail names)
    (second : Names files settings root place trail names') : names = names' :=
  first.2.trans second.2.symm

theorem mem_namesAt_iff (tree : files.IsTree place)
    (found : files.find (pathOf root trail) = .ok (place ++ trail, .directory)) (name : String) :
    name ∈ namesAt files settings root place trail ↔
      ListsDirectory files settings root trail name := by
  have listed : files.list (pathOf root trail) = .ok (files.childNames (place ++ trail)) := by
    simp only [list, found]
  constructor
  · intro within
    obtain ⟨included, entered, stands⟩ :=
      listingOf_leads tree found (List.prefix_append _ _) within
    exact ⟨_, place ++ trail ++ [name], listed,
      mem_childNames_iff.mpr (by rw [stands]; simp), included,
      (pathOf_concat ..).symm ▸ entered⟩
  · rintro ⟨entries, location, entries', within, included, entered⟩
    rw [listed, Except.ok.injEq] at entries'
    subst entries'
    rw [pathOf_concat] at entered
    have taken : Arena.entryAt? files (Path.join (pathOf root trail) name) name =
        some (.ofSize name 0 true) := by
      simp only [Arena.entryAt?, entered]
    have member : Entry.ofSize name 0 true ∈
        entriesIn files settings (pathOf root trail) (place ++ trail) :=
      List.mem_filterMap.mpr ⟨name, List.mem_filter.mpr ⟨within, by simp [included]⟩, taken⟩
    exact List.mem_map.mpr ⟨_, (listingOf_directories ..).mem_iff.mpr
      (List.mem_filter.mpr ⟨member, rfl⟩), rfl⟩

/-- Where directories stay and entries are classified as before, a directory lists the directories that
it has listed. -/
theorem ListsDirectory.extends {files' : FileSystem} (tree : files.IsTree place)
    (found : files.find (pathOf root trail) = .ok (place ++ trail, .directory))
    (extended : files.Extends files') (same : ∀ name, IsEntryName name →
      Inclusion.classify files' settings (pathOf root trail) name =
        Inclusion.classify files settings (pathOf root trail) name) {name : String}
    (lists : ListsDirectory files settings root trail name) :
    ListsDirectory files' settings root trail name := by
  obtain ⟨included, entered, stands⟩ := listingOf_leads tree found (List.prefix_append _ _)
    ((mem_namesAt_iff tree found name).mpr lists)
  have named := tree.named _ _ (List.prefix_append place trail) (by rw [stands]; exact nofun)
  refine ⟨files'.childNames (place ++ trail), place ++ trail ++ [name], ?_, ?_,
    (same name named).trans included, (pathOf_concat ..).symm ▸ find_extends extended entered⟩
  · simp only [list, find_extends extended found]
  · refine mem_childNames_iff.mpr ?_
    rw [extended.2.1 _ stands]
    exact nofun

/-- A directory that is found at the end of its trail, by a path that is longer than the trail. -/
structure Standing (files : FileSystem) (root : String) (place : Location) (trail : List String) :
    Prop where
  found : files.find (pathOf root trail) = .ok (place ++ trail, .directory)
  longer : trail.length < (pathOf root trail).utf8ByteSize

theorem Standing.start (found : files.find root = .ok (place, .directory)) :
    Standing files root place [] where
  found := by
    rw [List.append_nil]
    exact found
  longer := Nat.pos_of_ne_zero (mt String.utf8ByteSize_eq_zero_iff.mp (path_ne_empty found))

theorem Standing.bounded (standing : Standing files root place trail) :
    trail.length < deepestWalk := by
  obtain ⟨_, _, short, _⟩ := walk_of_resolve (resolve_of_find standing.found)
  exact Nat.lt_trans standing.longer short

theorem Standing.child (tree : files.IsTree place) (standing : Standing files root place trail)
    (listed : Names files settings root place trail names) {name : String} (within : name ∈ names) :
    Standing files root place (trail ++ [name]) := by
  obtain ⟨_, rfl⟩ := listed
  obtain ⟨_, entered, there⟩ :=
    listingOf_leads tree standing.found (List.prefix_append _ _) within
  have named := tree.named _ _ (List.prefix_append place trail) (by rw [there]; exact nofun)
  refine ⟨?_, ?_⟩
  · rw [pathOf_concat, ← List.append_assoc]
    exact entered
  · have longer := Path.utf8ByteSize_join (pathOf root trail) named.toIsName
    have above := standing.longer
    rw [pathOf_concat, List.length_append, List.length_singleton]
    omega

end
end SiteIndex.Listing

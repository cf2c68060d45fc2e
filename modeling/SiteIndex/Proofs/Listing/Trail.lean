import SiteIndex.Proofs.Listing.Entering
import SiteIndex.Proofs.Listing.Ways

/-!
The way to a directory. On a walk the snapshots lie one below the other, each under the name by which it
was selected in the one before, and what the marks are made to tell is these names.
-/

namespace SiteIndex.Listing

/-- The path of the directory to which these names lead from `root`. -/
def pathOf (root : String) (trail : List String) : String :=
  trail.foldl Path.join root

theorem pathOf_concat (root : String) (trail : List String) (name : String) :
    pathOf root (trail ++ [name]) = Path.join (pathOf root trail) name := by
  simp [pathOf]

namespace Arena

/-- The rungs on the way down to a directory. -/
def ladder (trail : List String) : List (Option Nat × Option String) :=
  (none, none) :: trail.zipIdx.map fun (name, above) => (some above, some name)

/-- The snapshots are those on the way down to a directory. -/
def Spells (arena : Arena) (trail : List String) : Prop :=
  arena.rungs = ladder trail

theorem ladder_concat (trail : List String) (name : String) :
    ladder (trail ++ [name]) = ladder trail ++ [(some trail.length, some name)] := by
  simp [ladder, List.zipIdx_append]

theorem spells_root {listing : Snapshot} (parent : listing.parent = none)
    (name : listing.entryName = none) : (Arena.empty.push listing).Spells [] := by
  simp [Spells, rungs, ladder, push, empty, parent, name]

section
variable {arena : Arena} {trail : List String} (spells : arena.Spells trail)
include spells

theorem Spells.depth : arena.depth = trail.length + 1 := by
  have same := congrArg List.length spells
  simpa [rungs, ladder, Arena.depth] using same

theorem Spells.child {listing : Snapshot} {name : String}
    (parent : listing.parent = some trail.length) (entry : listing.entryName = some name) :
    (arena.push listing).Spells (trail ++ [name]) := by
  have same : arena.rungs = ladder trail := spells
  rw [Spells, ladder_concat, ← same]
  simp [rungs, push, parent, entry]

theorem Spells.root : ∃ snapshot, arena.get? 0 = some snapshot ∧ snapshot.parent = none := by
  have rung := arena.getElem?_rungs 0
  rw [show arena.rungs = ladder trail from spells] at rung
  obtain ⟨snapshot, found, same⟩ := Option.map_eq_some_iff.mp rung.symm
  exact ⟨snapshot, found, congrArg Prod.fst same⟩

theorem Spells.rung {id : Nat} (within : id < trail.length) :
    ∃ snapshot, arena.get? (id + 1) = some snapshot ∧ snapshot.parent = some id ∧
      snapshot.entryName = some trail[id] := by
  have rung := arena.getElem?_rungs (id + 1)
  rw [show arena.rungs = ladder trail from spells] at rung
  simp only [ladder, List.getElem?_cons_succ, List.getElem?_map, List.getElem?_zipIdx,
    List.getElem?_eq_getElem within, Option.map_some, Nat.zero_add] at rung
  obtain ⟨snapshot, found, same⟩ := Option.map_eq_some_iff.mp rung.symm
  exact ⟨snapshot, found, congrArg Prod.fst same, congrArg Prod.snd same⟩

/-- Neither the marks nor the cursors are a matter of the trail. -/
theorem Spells.of_still {later : Arena} {spot : Option Nat} (still : later.still spot = arena) :
    later.Spells trail := by
  rw [Spells, ← later.rungs_still spot, still]
  exact spells

theorem Spells.leads : arena.Leads trail trail.length := by
  have upTo (count : Nat) (within : count ≤ trail.length) :
      arena.Leads (trail.take count) count := by
    induction count with
    | zero =>
        obtain ⟨snapshot, found, top⟩ := spells.root
        exact .root found top
    | succ count ih =>
        obtain ⟨snapshot, found, parent, entered⟩ := spells.rung within
        rw [List.take_succ_eq_append_getElem within]
        exact .child (ih (Nat.le_of_succ_le within)) found parent (Nat.lt_succ_self count) entered
  simpa using upTo trail.length (Nat.le_refl _)

/-- A directory is as many levels below the root as there are names on the way to it. -/
theorem Spells.levelsBelowRoot : arena.levelsBelowRoot trail.length = trail.length :=
  spells.leads.levelsBelowRoot

/-- The way that is told leads to the directory. -/
theorem Spells.pathString : (arena.pathString trail.length).1 = wayOf trail :=
  spells.leads.pathString

end

/-- The snapshots that a directory with this trail is entered from. -/
inductive Above : Arena → (parent : Option Nat) → (trail : List String) → Prop
  | root : Above .empty none []
  | child {arena : Arena} {outer : List String} {name : String} (spells : arena.Spells outer)
      (selected : arena.selectedIn (some outer.length) = .ok (some name)) :
      Above arena (some outer.length) (outer ++ [name])

section
variable {arena : Arena} {parent : Option Nat} {trail : List String}

theorem Above.depth (above : Above arena parent trail) : arena.depth = trail.length := by
  cases above with
  | root => rfl
  | child spells => simp [spells.depth]

theorem Above.selected (above : Above arena parent trail) :
    ∃ entryName, arena.selectedIn parent = .ok entryName ∧ ∀ listing : Snapshot,
      listing.parent = parent → listing.entryName = entryName →
        (arena.push listing).Spells trail := by
  cases above with
  | root => exact ⟨none, rfl, fun _ => spells_root⟩
  | child spells selected => exact ⟨_, selected, fun _ => spells.child⟩

theorem Spells.depth_below {listing : Snapshot} (spells : (arena.push listing).Spells trail) :
    arena.depth = trail.length := by
  have deeper := spells.depth
  simp only [Arena.push, Arena.depth, List.length_append, List.length_singleton] at deeper
  exact Nat.succ.inj deeper

theorem Spells.get?_last {listing : Snapshot} (spells : (arena.push listing).Spells trail) :
    (arena.push listing).get? trail.length = some listing :=
  spells.depth_below ▸ arena.get?_push listing

/-- The next directory is entered under its name. -/
theorem Spells.above (spells : arena.Spells trail) {snapshot : Snapshot} {name : String}
    (seen : arena.get? trail.length = some snapshot) (next : snapshot.nextDirectory? = some name) :
    Above (arena.advance trail.length).2 (some trail.length) (trail ++ [name]) := by
  refine .child (by rw [Spells, rungs_advance]; exact spells) ?_
  have moved : (arena.advance trail.length).2.get? trail.length = some snapshot.advance.2 :=
    found_advance seen
  unfold Snapshot.nextDirectory? at next
  split at next
  · obtain ⟨entry, within, rfl⟩ := Option.map_eq_some_iff.mp next
    have selected := (Option.filter_eq_some_iff.mp within).1
    simp [selectedIn, Arena.get, moved, selected]
  · cases next

/-- A directory is entered under its name, and nothing in it is selected. -/
theorem Above.entered {files : FileSystem} {path : String} {directory : Location} {base : Arena}
    (above : Above base parent trail) (settings : Settings) (still : arena.unmarked = base)
    (found : files.find path = .ok (directory, .directory)) :
    ∃ entryName listing, listing = listingOf files settings parent entryName path directory ∧
      arena.visit files settings parent path = .ok (arena.push listing, trail.length) ∧
      (base.push listing).Spells trail ∧ (arena.push listing).unmarked = base.push listing ∧
      (arena.push listing).still (some trail.length) = base.push listing := by
  have depth : arena.depth = trail.length := by
    rw [← arena.depth_unmarked, still, above.depth]
  obtain ⟨entryName, selected, spells⟩ := above.selected
  obtain ⟨parent', name, _, unset, mark⟩ :=
    listingOf_frame files settings path directory parent entryName
  have visits : arena.visit files settings parent path = .ok (arena.push
      (listingOf files settings parent entryName path directory), trail.length) := by
    rw [visit_eq found, ← selectedIn_unmarked, still, selected, depth]
    rfl
  refine ⟨entryName, _, rfl, visits, spells _ parent' name, ?_⟩
  generalize listingOf files settings parent entryName path directory = listing at *
  have unmarked : (arena.push listing).unmarked = base.push listing := by
    rw [unmarked_push, still, Snapshot.unmarked, ← mark]
  have seen : (base.push listing).get? trail.length = some listing :=
    above.depth ▸ base.get?_push listing
  refine ⟨unmarked, ?_⟩
  rw [Arena.still, unmarked, resetCursor_of_unset seen unset]

end

end Arena
end SiteIndex.Listing

import SiteIndex.Proofs.Build.Indexes

/-!
Two builds on their walk through the same directories. A directory is entered in both or in neither, its
subdirectories are gone to in the same order, and what has been written lies in the directories that have
been left behind, so that none of it meets a directory still to be written.
-/

namespace SiteIndex.Build

open SiteIndex.Listing SiteIndex.FileSystem SiteIndex.Template

/-- More has been written, but only in a directory and below it. -/
def Reaches (directory : Location) (done done' : Location → Prop) : Prop :=
  (∀ location, done location → done' location) ∧
    ∀ location, done' location → done location ∨ directory <+: location

section
variable {site : Site} {mapped : Bool} {done done' : Location → Prop} {origin : FileSystem}
  {base : Arena} {state state' : State} {path name : String} {directory : Location}

theorem Located.extends {files : FileSystem} (located : Located site done origin path directory)
    (extended : origin.Extends files) : Located site done files path directory where
  found := find_extends extended located.found
  below := located.below
  climbs between under above further := by
    obtain ⟨stands, names⟩ := located.climbs between under above further
    exact ⟨extended.2.1 _ stands, names⟩
  fresh := located.fresh

/-- A directory listed in one that has been written is still to be written itself. -/
theorem Located.child (located : Located site done origin path directory) {listing : Snapshot}
    (listed : Listed origin path directory listing)
    (within : name ∈ listing.directories.map Entry.name) :
    Located site (adding done directory) origin (Path.join path name) (directory ++ [name]) := by
  obtain ⟨found, stands, notIndex, notTemplate⟩ := listed.leads name within
  refine ⟨found, List.prefix_append_of_prefix located.below, fun between under above further => ?_,
    ?_⟩
  · rcases List.prefix_concat_iff.mp above with rfl | above
    · simpa using ⟨stands, notIndex, notTemplate⟩
    · exact located.climbs between under above further
  · rintro other above (done | rfl)
    · exact located.fresh other ((List.prefix_append _ _).trans above) done
    · simpa using above.length_le

/-- What has been written in one directory meets no sibling of it. -/
theorem Located.beside (located : Located site done origin (Path.join path name) (directory ++ [name]))
    {sibling : String} (reaches : Reaches (directory ++ [sibling]) done done')
    (other : sibling ≠ name) :
    Located site done' origin (Path.join path name) (directory ++ [name]) :=
  { located with
    fresh := fun further above written => by
      rcases reaches.2 further written with done | reached
      · exact located.fresh further above done
      · refine other ?_
        have same := List.prefix_of_prefix_length_le reached above (by simp)
        simpa using same.eq_of_length (by simp) }

theorem Walking.newsSidecars_eq {spot : Spot} {even : Prop}
    (walking : Walking site mapped done spot even state state')
    (located : Located site done spot.origin path directory) :
    newsSidecars state.files .stock path = newsSidecars state'.files .stock path := by
  have at_spot := located.at_spot walking
  simp only [newsSidecars, list, at_spot, walking.alike.find_directory at_spot,
    ← walking.alike.childNames directory]
  refine List.filter_congr fun name listed => ?_
  rw [walking.classify_eq located listed]

theorem Walking.named_sidecars {spot : Spot} {even : Prop}
    (walking : Walking site mapped done spot even state state')
    (located : Located site done spot.origin path directory) :
    ∀ sidecar ∈ newsSidecars state.files .stock path, IsEntryName sidecar := by
  intro sidecar announced
  simp only [newsSidecars, list, located.at_spot walking] at announced
  exact walking.named located (List.mem_of_mem_filter announced)

/-- On the walk between two directories. -/
abbrev Roaming (site : Site) (mapped : Bool) (done : Location → Prop) (origin : FileSystem)
    (base : Arena) (state state' : State) : Prop :=
  Walking site mapped done ⟨origin, none, base⟩ True state state'

theorem Reaches.refl (directory : Location) (done : Location → Prop) :
    Reaches directory done done :=
  ⟨fun _ => id, fun _ => .inl⟩

theorem Reaches.trans {done'' : Location → Prop} (first : Reaches directory done done')
    (second : Reaches directory done' done'') : Reaches directory done done'' :=
  ⟨fun location written => second.1 location (first.1 location written), fun location written =>
    (second.2 location written).elim (first.2 location) .inr⟩

theorem Reaches.outer (reaches : Reaches (directory ++ [name]) done done') :
    Reaches directory done done' :=
  ⟨reaches.1, fun location written =>
    (reaches.2 location written).imp_right (List.prefix_append _ _).trans⟩

theorem Roaming.moved (roaming : Roaming site mapped done origin base state state') (id : Nat) :
    Roaming site mapped done origin (base.advance id).2
      { state with arena := (state.arena.advance id).2 }
      { state' with arena := (state'.arena.advance id).2 } :=
  have arena : (state.arena.advance id).2.unmarked = (base.advance id).2 :=
    (state.arena.unmarked_advance id).trans (congrArg (fun arena => (arena.advance id).2) roaming.arena)
  have arena' : (state'.arena.advance id).2.unmarked = (base.advance id).2 :=
    (state'.arena.unmarked_advance id).trans
      (congrArg (fun arena => (arena.advance id).2) roaming.arena')
  { roaming with arena, arena', level := fun _ => arena.trans arena'.symm }

/-- The directories that the cursor still comes to are gone to one after another. Snapshots before this
one stay as they are. -/
theorem visitChildren_aligned {visit visit' : String → Step Unit} {id : Nat}
    (visits : ∀ name done base, Located site done origin (Path.join path name) (directory ++ [name]) →
      Step.Aligned (Roaming site mapped done origin base)
        (fun _ _ state state' => ∃ done', Reaches (directory ++ [name]) done done' ∧
          Roaming site mapped done' origin base state state')
        (Broken site) (visit name) (visit' name))
    (limit : Nat) (names : List String) {snapshot : Snapshot} (seen : base.get? id = some snapshot)
    (sorted : snapshot.Sorted) (coming : snapshot.comingDirectories = names)
    (apart : names.Nodup) (located : ∀ name ∈ names,
      Located site done origin (Path.join path name) (directory ++ [name])) :
    Step.Aligned (Roaming site mapped done origin base)
      (fun _ _ state state' => ∃ done' base', Reaches directory done done' ∧
        base'.leave id = base.leave id ∧ Roaming site mapped done' origin base' state state')
      (Broken site) (Step.visitChildren visit id limit) (Step.visitChildren visit' id limit) := by
  induction limit generalizing done base names snapshot with
  | zero => exact Step.Aligned.pure fun _ _ roaming => ⟨done, base, .refl _ _, rfl, roaming⟩
  | succ limit ih =>
      intro state state' before result result' run run'
      rw [Step.visitChildren_succ visit id limit before.arena, seen, Option.bind_some] at run
      rw [Step.visitChildren_succ visit' id limit before.arena', seen, Option.bind_some] at run'
      have moved := before.moved id
      cases names with
      | nil =>
          rw [Snapshot.nextDirectory?_none sorted coming] at run run'
          cases run
          cases run'
          exact .ok ⟨done, _, .refl _ _, base.leave_advance id, moved⟩
      | cons name rest =>
          obtain ⟨next, left⟩ := Snapshot.nextDirectory?_some sorted coming
          obtain ⟨first, apart⟩ := List.nodup_cons.mp apart
          rw [next] at run run'
          refine ((visits name done _ (located name (by simp))).bind fun _ _ => ?_) _ _ moved _ _ run
            run'
          rintro between between' ⟨done', reaches, roaming⟩
          have seen' : (base.advance id).2.get? id = some snapshot.advance.2 :=
            Arena.found_advance seen
          refine (ih rest seen' ⟨sorted.directories, sorted.files⟩ left apart fun sibling within =>
            (located sibling (List.mem_cons_of_mem _ within)).beside reaches
              fun same => first (same ▸ within)).leaves ?_ between between' roaming
          rintro _ _ _ _ ⟨done'', base', further, left', roaming'⟩
          exact ⟨done'', base', reaches.outer.trans further, left'.trans (base.leave_advance id),
            roaming'⟩

section
variable (roaming : Roaming site mapped done origin base state state')
  (located : Located site done origin path directory)
include roaming located

theorem Roaming.entered (parent : Option Nat) (entryName : Option String) {listing : Snapshot}
    (same : listing = listingOf state.files .stock parent entryName path directory) :
    Walking site mapped done ⟨state.files, some base.depth, base.push listing⟩ True
        { state with arena := state.arena.push listing }
        { state' with arena := state'.arena.push listing } ∧
      (state.arena.push listing).unmarked = base.push listing ∧
      Inside site ⟨state.files, some base.depth, base.push listing⟩ base.depth path directory
        listing := by
  have listed : Listed state.files path directory listing := by
    rw [same]
    exact roaming.listed located parent entryName
  have unmarked : listing.unmarked = listing := by
    rw [Snapshot.unmarked, ← listed.mark]
  have seen := base.get?_push listing
  have arena : (state.arena.push listing).unmarked = base.push listing := by
    rw [Arena.unmarked_push, unmarked]
    exact congrArg (·.push listing) roaming.arena
  have arena' : (state'.arena.push listing).unmarked = base.push listing := by
    rw [Arena.unmarked_push, unmarked]
    exact congrArg (·.push listing) roaming.arena'
  have still := Arena.resetCursor_of_unset seen listed.cursor
  refine ⟨{ roaming with
    extended := .refl _
    arena := (congrArg (·.resetCursor base.depth) arena).trans still
    arena' := (congrArg (·.resetCursor base.depth) arena').trans still
    level := fun _ => arena.trans arena'.symm }, arena, ?_⟩
  exact ⟨rfl, seen, located.at_spot roaming, located.below, listed⟩

/-- A directory is entered in both builds or in neither. -/
theorem Roaming.visit_eq (parent : Option Nat) :
    (∃ cause,
      state.arena.visit state.files site.plan.settings parent path = .error cause ∧
        state'.arena.visit state'.files site.plan'.settings parent path = .error cause) ∨
      ∃ entryName listing, listing = listingOf state.files .stock parent entryName path directory ∧
        state.arena.visit state.files site.plan.settings parent path =
          .ok (state.arena.push listing, base.depth) ∧
        state'.arena.visit state'.files site.plan'.settings parent path =
          .ok (state'.arena.push listing, base.depth) := by
  have at_spot := located.at_spot roaming
  have listed (entryName : Option String) :
      listingOf state'.files site.plan'.settings parent entryName path directory =
        listingOf state.files site.plan.settings parent entryName path directory :=
    congrArg (List.foldl Snapshot.insert (.empty parent entryName path))
      (roaming.entries_eq located).symm
  rw [Arena.visit_eq at_spot, Arena.visit_eq (roaming.alike.find_directory at_spot),
    ← Arena.selectedIn_congr (roaming.level trivial)]
  simp only [listed]
  cases state.arena.selectedIn parent with
  | error cause => exact .inl ⟨cause, rfl, rfl⟩
  | ok entryName =>
      have depth : state.arena.depth = base.depth :=
        (state.arena.depth_unmarked.symm).trans (congrArg Arena.depth roaming.arena)
      have depth' : state'.arena.depth = base.depth :=
        (state'.arena.depth_unmarked.symm).trans (congrArg Arena.depth roaming.arena')
      rw [depth, depth']
      exact .inr ⟨entryName, _, rfl, rfl, rfl⟩

end

theorem Roaming.left (roaming : Roaming site mapped done origin base state state') {id : Nat}
    {outer : Arena} (same : base.leave id = outer) :
    Roaming site mapped done origin outer
      { state with arena := (state.arena.resetCursor id).leave id }
      { state' with arena := (state'.arena.resetCursor id).leave id } :=
  have left {arena : Arena} (unmarked : arena.unmarked = base) :
      ((arena.resetCursor id).leave id).unmarked = outer :=
    (Arena.left_of_unmarked unmarked id).trans same
  { roaming with
    arena := left roaming.arena
    arena' := left roaming.arena'
    level := fun _ => (left roaming.arena).trans (left roaming.arena').symm }

section
variable {files : FileSystem} {listing : Snapshot}

/-- A directory that has been entered is written in both builds, and those below it after it. -/
theorem explore_aligned {levels : Nat}
    (visits : ∀ {done origin base path directory} parent,
      Located site done origin path directory →
      Step.Aligned (Roaming site mapped done origin base)
        (fun _ _ state state' => ∃ done', Reaches directory done done' ∧
          Roaming site mapped done' origin base state state')
        (Broken site) (Step.visit site.plan levels parent path)
        (Step.visit site.plan' levels parent path))
    (inside : Inside site ⟨files, some base.depth, base.push listing⟩ base.depth path directory
      listing)
    (located : Located site done files path directory) {sidecars : List String}
    (named : ∀ sidecar ∈ sidecars, IsEntryName sidecar) :
    Step.Aligned
      (fun state state' =>
        Walking site mapped done ⟨files, some base.depth, base.push listing⟩ True state state' ∧
          state.arena.unmarked = base.push listing)
      (fun _ _ state state' => ∃ done', Reaches directory done done' ∧
        Roaming site mapped done' files base state state')
      (Broken site) (Step.explore site.plan levels base.depth path sidecars)
      (Step.explore site.plan' levels base.depth path sidecars) := by
  refine (writeDirectory_aligned inside located named).bind fun count count' => ?_
  rintro state state' ⟨-, rfl, unmarked, written⟩
  have left : Roaming site mapped (adding done directory) files (base.push listing) state state' :=
    { written with arena := unmarked, arena' := (written.level trivial).symm.trans unmarked }
  have coming : listing.comingDirectories = listing.directories.map Entry.name := by
    simp only [Snapshot.comingDirectories, inside.listed.cursor]
  refine ((visitChildren_aligned (fun name _ _ located => visits _ located) (count' + 1) _
    (base.get?_push listing) inside.listed.sorted coming inside.listed.apart
    fun name within => located.child inside.listed within).bind fun _ _ => ?_) state state' left
  refine Step.Aligned.modify ?_
  rintro state state' ⟨done', base', reaches, same, roaming⟩
  have outer : base'.leave base.depth = base := same.trans (base.leave_push listing)
  refine ⟨done', ⟨fun location before => reaches.1 location (.inl before), fun location after => ?_⟩,
    roaming.left outer⟩
  rcases reaches.2 location after with (before | rfl) | below
  · exact .inl before
  · exact .inr (List.prefix_refl _)
  · exact .inr below

end

/-- Two builds visit the same directories and write in them, and leave all else alone. -/
theorem visit_aligned (levels : Nat) (parent : Option Nat)
    (located : Located site done origin path directory) :
    Step.Aligned (Roaming site mapped done origin base)
      (fun _ _ state state' => ∃ done', Reaches directory done done' ∧
        Roaming site mapped done' origin base state state')
      (Broken site) (Step.visit site.plan levels parent path)
      (Step.visit site.plan' levels parent path) := by
  induction levels generalizing done origin base parent path directory with
  | zero => exact Step.Aligned.pure fun _ _ roaming => ⟨done, .refl _ _, roaming⟩
  | succ levels ih =>
      intro state state' roaming result result' run run'
      rcases roaming.visit_eq located parent with
        ⟨cause, refused, refused'⟩ | ⟨entryName, listing, same, entered, entered'⟩
      · rw [Step.visit_refused refused] at run
        rw [Step.visit_refused refused'] at run'
        cases parent with
        | none =>
            cases run
            cases run'
            exact .error _ roaming.broken
        | some id =>
            cases run
            cases run'
            exact .ok ⟨done, .refl _ _, roaming⟩
      · obtain ⟨walking, fresh, inside⟩ := roaming.entered located parent entryName same
        rw [Step.visit_entered entered] at run
        rw [Step.visit_entered entered'] at run'
        have sidecars : newsSidecars state'.files site.plan'.settings path =
            newsSidecars state.files site.plan.settings path :=
          (roaming.newsSidecars_eq located).symm
        rw [sidecars] at run'
        cases explore_aligned (fun parent => ih parent) inside (located.extends roaming.extended)
          (roaming.named_sidecars located) _ _ ⟨walking, fresh⟩ _ _ run run' with
        | error failure broken => exact .error failure broken
        | ok explored =>
            obtain ⟨done', reaches, later⟩ := explored
            exact .ok ⟨done', reaches,
              { later with extended := roaming.extended.trans later.extended }⟩

end

end SiteIndex.Build

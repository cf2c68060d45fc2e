import SiteIndex.Proofs.Build.Pieces
import SiteIndex.Proofs.Build.Repeated

/-!
The walk of a build over directories in which indexes have been left behind. No index is listed, nor read
by any widget until it is written anew, unless it is itself what is announced. So the walk goes the way
that it goes where there are none yet, and leaves the same files.
-/

namespace SiteIndex.Build

open SiteIndex.Listing SiteIndex.FileSystem SiteIndex.Template

/-- A directory that is being written, with what is listed in it. On the way to it no directory has the
name of the index. -/
structure Writing (plan : Plan) (place : Location) (origin : FileSystem) (base : Arena) (id : Nat)
    (path : String) (directory : Location) (listing : Snapshot) : Prop where
  seen : base.get? id = some listing
  here : listing.path = path
  found : origin.find path = .ok (directory, .directory)
  below : place <+: directory
  named : ∀ entry ∈ listing.entries, IsEntryName entry.name
  leads : ∀ entry ∈ listing.entries, entry.isDirectory = true →
    ∃ location, origin.find (Path.join path entry.name) = .ok (location, .directory)
  shown : ¬ plan.Indexes place directory
  parent : ¬ plan.Indexes place directory.dropLast

section
variable {plan : Plan} {place : Location} {origin final : FileSystem} {base : Arena} {id : Nat}
  {path : String} {directory : Location} {listing : Snapshot} {state : State}

theorem Plan.outputs_indexes (plan : Plan) (place : Location) :
    Outputs plan.settings place (plan.Indexes place) (fun _ => False) where
  named location may := (plan.spared place).named location (.inl (.inl (may.resolve_right id)))
  deep location may := (plan.spared place).deep location (.inl (.inl (may.resolve_right id)))
  fresh location := by
    rintro ⟨directory, _, rfl⟩
    exact List.getLast?_concat ..

/-- No directory is where an index may be if none on the way to it is called so. -/
theorem Plan.not_indexes {trail : List String} (plain : plan.settings.outputs.index ∉ trail) :
    ¬ plan.Indexes place (place ++ trail) ∧ ¬ plan.Indexes place (place ++ trail).dropLast := by
  have apart (trail : List String) (plain : plan.settings.outputs.index ∉ trail) :
      ¬ plan.Indexes place (place ++ trail) := by
    rintro ⟨directory, below, same⟩
    have last : (place ++ trail).getLast? = some plan.settings.outputs.index := by
      rw [same, List.getLast?_concat]
    cases trail with
    | nil =>
        have longer := below.length_le
        have lengths := congrArg List.length same
        simp at lengths
        omega
    | cons name rest =>
        rw [List.getLast?_append_of_ne_nil _ (by simp)] at last
        exact plain (List.mem_of_getLast? last)
  refine ⟨apart trail plain, ?_⟩
  by_cases inner : trail = []
  · rintro ⟨directory, below, same⟩
    have longer := below.length_le
    have lengths := congrArg List.length same
    simp [inner] at lengths
    omega
  · rw [List.dropLast_append_of_ne_nil inner]
    exact apart _ fun within => plain (List.dropLast_subset trail within)

theorem Plan.hidesByName_indexes (plan : Plan) (stock : plan.settings = .stock) (place : Location) :
    HidesByName (plan.Indexes place) := by
  rintro _ ⟨directory, _, rfl⟩
  exact ⟨directory, _, rfl, by rw [stock]; exact .inr (.inl rfl)⟩

theorem Plan.shown_indexes (plan : Plan) (apart : plan.settings.Apart) (place : Location)
    (kind : FeedKind) : ¬ plan.Indexes place (plan.output place kind) :=
  fun ⟨directory, _, same⟩ => output_ne_index apart.distinct directory same

/-- What a news sidecar of another file than the index announces is not an index. -/
theorem Writing.announced (writing : Writing plan place origin base id path directory listing)
    {files : FileSystem} {sidecar : String} (named : IsEntryName sidecar)
    (other : Sidecar.announced? plan.settings.conventions sidecar ≠ some plan.settings.outputs.index)
    {item : News.Item}
    (loaded : News.Item.load files plan.settings.conventions path sidecar = .ok item) :
    Announced origin place (plan.Indexes place) item.target := by
  simp only [News.Item.load] at loaded
  split at loaded
  · cases loaded
  · next name announced =>
    split at loaded
    · cases loaded
    · next text read =>
      cases loaded
      refine ⟨path, directory, name, rfl, writing.found, writing.below,
        Sidecar.isName_of_announced named announced, ?_, writing.shown, writing.parent⟩
      rintro ⟨directory', _, same⟩
      have index : name = plan.settings.outputs.index :=
        List.head_eq_of_cons_eq (List.append_inj' same rfl).2
      exact other (announced.trans (congrArg some index))

section
variable (ground : Ground plan place (plan.Writes place) (fun _ => False) origin)
  (stock : plan.settings = .stock)
include ground stock

theorem Writing.housed (writing : Writing plan place origin base id path directory listing)
    (working : Working plan place (plan.Writes place) (fun _ => False) origin (some id) base state) :
    Housed place (plan.Indexes place) (plan.context (some id) none) state.arena state.files := by
  have extended := working.reworked.extended
  have taken : ∀ snapshot, (some id).bind state.arena.get? = some snapshot →
      snapshot.path = path ∧ snapshot.entries = listing.entries := by
    intro snapshot seen
    obtain ⟨snapshot', seen', rfl⟩ := Arena.seen_of_still working.still writing.seen
    cases seen.symm.trans seen'
    exact ⟨writing.here, rfl⟩
  refine
    { conventions := by
        change plan.settings.conventions = _
        rw [stock]
        rfl
      tree := working.tree ground
      hides := plan.hidesByName_indexes stock place
      sited := fun snapshot seen => ?_
      announced := fun _ told => by cases told
      leads := fun snapshot seen entry listed kind => ?_ }
  · obtain ⟨same, entries⟩ := taken snapshot seen
    exact ⟨directory, same ▸ working.found writing.found, writing.below, entries ▸ writing.named⟩
  · obtain ⟨same, entries⟩ := taken snapshot seen
    obtain ⟨location, found⟩ := writing.leads entry (entries ▸ listed) kind
    exact ⟨location, same ▸ find_extends extended found⟩

variable (apart : plan.settings.Apart)
include apart

theorem announce_follows (writing : Writing plan place origin base id path directory listing)
    (way : String) {sidecar : String} (named : IsEntryName sidecar)
    (other : Sidecar.announced? plan.settings.conventions sidecar ≠
      some plan.settings.outputs.index) :
    Follows plan place (plan.Indexes place) origin final (some id) base
      (Step.announce plan id path way sidecar) := by
  rintro state ahead ⟨working, files⟩ value later run
  have same := load_steady files.reworked (plan.outputs_indexes place) (working.tree ground)
    (working.found writing.found) writing.below apart named
  cases loaded : News.Item.load state.files plan.settings.conventions path sidecar with
  | error cause =>
      rw [Step.announce_unread loaded] at run
      cases run
      exact ⟨ahead, Step.announce_unread (same.trans loaded), working, files⟩
  | ok item =>
      have loaded' : News.Item.load ({ state with files := ahead } : State).files
          plan.settings.conventions path sidecar = .ok item := same.trans loaded
      rw [Step.announce_loaded loaded] at run
      rw [Step.announce_loaded loaded']
      have follows : Follows plan place (plan.Indexes place) origin final (some id) base
          (Step.writeBody plan .newsfeed id (some item)) := by
        refine writeBody_follows ground (plan.shown_indexes apart place) .newsfeed id (some item)
          fun state working => ?_
        have housed := writing.housed ground stock working
        exact
          { conventions := housed.conventions
            tree := housed.tree
            hides := housed.hides
            sited := housed.sited
            announced := fun _ told => Option.some.inj told ▸
              (writing.announced named other loaded).extends working.reworked.extended
            leads := housed.leads }
      refine follows _ ahead ?_ value later run
      exact ⟨working.touched working.still, files⟩

theorem announceAll_follows (writing : Writing plan place origin base id path directory listing)
    (way : String) (sidecars : List String)
    (others : ∀ sidecar ∈ sidecars, IsEntryName sidecar ∧
      Sidecar.announced? plan.settings.conventions sidecar ≠ some plan.settings.outputs.index) :
    Follows plan place (plan.Indexes place) origin final (some id) base
      (Step.announceAll plan id path way sidecars) := by
  induction sidecars with
  | nil => exact Step.Repeats.pure fun _ _ led => led
  | cons sidecar rest ih =>
      obtain ⟨named, other⟩ := others sidecar (by simp)
      exact (announce_follows ground stock apart writing way named other).bind fun _ =>
        ih fun sidecar within => others sidecar (List.mem_cons_of_mem _ within)

omit apart in
/-- The file of an index is as empty in both, and the index may be expanded into it. -/
theorem Writing.created (writing : Writing plan place origin base id path directory listing)
    (working : Working plan place (plan.Writes place) (fun _ => False) origin (some id) base state)
    {ahead : FileSystem} (files : Ahead place (plan.Indexes place) final state.files ahead)
    (entryName : IsEntryName plan.settings.outputs.index)
    (vacant : state.files.node? (directory ++ [plan.settings.outputs.index]) ≠ some .directory) :
    Scene.Beside place (plan.Indexes place) final (plan.context (some id) none)
      ⟨state.arena, 0, ⟨state.files.put (directory ++ [plan.settings.outputs.index]) (.file .empty),
        .ofFile ⟨directory ++ [plan.settings.outputs.index], 0⟩⟩⟩
      ⟨state.arena, 0, ⟨ahead.put (directory ++ [plan.settings.outputs.index]) (.file .empty),
        .ofFile ⟨directory ++ [plan.settings.outputs.index], 0⟩⟩⟩ := by
  have tree := working.tree ground
  have holds (files : FileSystem) :=
    node?_putEntry files directory plan.settings.outputs.index (.file .empty)
  exact
    { housed := writing.housed ground stock (working.worked (.of_created tree writing.below entryName
        vacant (ground.index directory writing.below)))
      arena := rfl
      rootSteps := rfl
      out := rfl
      files := files.created tree entryName directory
      same := (holds ahead).trans (holds state.files).symm
      holds := ⟨_, holds state.files⟩ }

omit apart in
/-- The index of a directory is written in both, or its file can be created in neither. -/
theorem writeIndex_follows (writing : Writing plan place origin base id path directory listing) :
    Follows plan place (plan.Indexes place) origin final (some id) base
      (Step.writeIndex plan id path) := by
  refine Step.Repeats.along ?_ (writeIndex_working ground id writing.found writing.below)
  rintro state ahead ⟨working, files⟩ value later run
  have tree := working.tree ground
  have found := working.found writing.found
  have entryName : IsEntryName plan.settings.outputs.index := by
    rw [stock]
    decide
  rcases Option.eq_none_or_eq_some state.index with opened | ⟨template, opened⟩
  · rw [Step.writeIndex_closed opened] at run
    cases run
    exact ⟨ahead, Step.writeIndex_closed opened, files⟩
  cases success : state.files.create (Path.join path plan.settings.outputs.index) with
  | error cause =>
      rw [Step.writeIndex_refused success] at run
      cases run
      exact ⟨ahead, Step.writeIndex_refused
        (files.create_error tree found writing.below entryName success), files⟩
  | ok created =>
      obtain ⟨rfl, vacant⟩ := tree.create_entry found writing.below entryName success
      have opened' : ({ state with files := ahead } : State).index = some template := opened
      have success' := files.create_ok tree found writing.below entryName success
      have beside := writing.created ground stock working files entryName vacant
      obtain ⟨_, holds⟩ := beside.holds
      obtain ⟨ending, after, scene, -, -, ended, -, -, -⟩ :=
        Step.writeIndex_run opened success holds run
      obtain ⟨scene', ended', beside⟩ := expand_ahead beside ended
      obtain ⟨content, file⟩ := beside.holds
      obtain ⟨out, content', _, flushed⟩ := scene.out.out.flush_file content
      obtain ⟨written, passed, changed⟩ := flushed scene.out.files file
      obtain ⟨written', passed', changed'⟩ := flushed scene'.out.files (beside.same.trans file)
      rw [Step.writeIndex_ends opened success ended passed] at run
      cases run
      refine ⟨written', ?_, beside.files.rewritten changed changed'⟩
      rw [← beside.out] at passed'
      refine (Step.writeIndex_ends opened' success' ended' passed').trans ?_
      unfold State.expanded
      rw [beside.arena]

theorem writePages_follows (writing : Writing plan place origin base id path directory listing)
    (way : String) (sidecars : List String)
    (others : ∀ sidecar ∈ sidecars, IsEntryName sidecar ∧
      Sidecar.announced? plan.settings.conventions sidecar ≠ some plan.settings.outputs.index) :
    Step.Repeats (Led plan place (plan.Indexes place) origin final (some id) base)
      (fun count later ahead => Led plan place (plan.Indexes place) origin final none base later ahead ∧
        count = listing.entries.length)
      (Step.writePages plan id path way sidecars) := by
  refine (announceAll_follows ground stock apart writing way sidecars others).bind fun _ =>
    (writeIndex_follows ground stock writing).bind fun index =>
      (writeBody_follows ground (plan.shown_indexes apart place) .sitemap id none
        fun _ working => writing.housed ground stock working).bind fun _ => ?_
  rintro state ahead ⟨working, files⟩ value later run
  have noted := noteDirectory_working writing.seen path way index state working _ _ run
  cases run
  exact ⟨ahead, rfl, ⟨noted.1, files⟩, noted.2⟩

end

section
variable {trail : List String}
  (ground : Ground plan place (plan.Writes place) (fun _ => False) origin)
include ground

theorem Writing.of_listing {parent : Option Nat} {entryName : Option String}
    (working : Working plan place (plan.Writes place) (fun _ => False) origin none base state)
    (found : origin.find (pathOf plan.root trail) = .ok (place ++ trail, .directory))
    (plain : plan.settings.outputs.index ∉ trail)
    (taken : listing = listingOf state.files plan.settings parent entryName (pathOf plan.root trail)
      (place ++ trail))
    (spells : (base.push listing).Spells trail) :
    Writing plan place origin (base.push listing) trail.length (pathOf plan.root trail)
      (place ++ trail) listing := by
  have entry : ∀ entry ∈ listing.entries, entry ∈ entriesIn state.files plan.settings
      (pathOf plan.root trail) (place ++ trail) := by
    intro entry within
    rw [taken] at within
    exact Snapshot.mem_entries_foldl_insert within
  refine
    { seen := spells.get?_last
      here := taken ▸ (listingOf_frame ..).2.2.1
      found
      below := List.prefix_append _ _
      named := fun listed within => ?_
      leads := fun listed within kind => ?_
      shown := (Plan.not_indexes plain).1
      parent := (Plan.not_indexes plain).2 }
  · exact (working.tree ground).named _ _ (List.prefix_append _ _)
      (node?_of_mem_childNames (of_mem_entriesIn (entry listed within)).1)
  · obtain ⟨location, leads⟩ := (of_mem_entriesIn (entry listed within)).2.2 kind
    exact ⟨location, find_extends working.reworked.narrowed leads⟩

/-- Where no file announces an index, the news found in a directory are those of other files. -/
theorem Working.others (apart : plan.settings.Apart)
    (unannounced : ∀ directory, place <+: directory → origin.node? (directory ++
      [plan.settings.outputs.index ++ plan.settings.conventions.newsSuffix]) = none)
    (working : Working plan place (plan.Writes place) (fun _ => False) origin none base state)
    (found : origin.find (pathOf plan.root trail) = .ok (place ++ trail, .directory))
    {sidecar : String}
    (within : sidecar ∈ newsSidecars state.files plan.settings (pathOf plan.root trail)) :
    IsEntryName sidecar ∧
      Sidecar.announced? plan.settings.conventions sidecar ≠ some plan.settings.outputs.index := by
  have tree := working.tree ground
  have found := working.found found
  refine ⟨named_newsSidecars tree found within, fun announced => ?_⟩
  have other : sidecar ∉ plan.settings.outputNames := fun output =>
    apart.announced sidecar output (Sidecar.suffix_of_announced announced)
  simp only [newsSidecars, list, found] at within
  refine node?_of_mem_childNames (List.mem_of_mem_filter within) ?_
  rw [node?_steady working.reworked (plan.spared place) other, Sidecar.eq_of_announced announced]
  exact unannounced _ (List.prefix_append _ _)

omit ground in
/-- The directories listed in one are gone to one after another in both. -/
theorem visitChildren_follows {visit : String → Step Unit}
    (visits : ∀ name base, Arena.Above base (some trail.length) (trail ++ [name]) →
      origin.find (pathOf plan.root (trail ++ [name])) = .ok (place ++ (trail ++ [name]), .directory) →
      name ≠ plan.settings.outputs.index →
      Follows plan place (plan.Indexes place) origin final none base (visit name))
    (limit : Nat) (spells : base.Spells trail) {snapshot : Snapshot}
    (seen : base.get? trail.length = some snapshot) (sorted : snapshot.Sorted)
    (leads : ∀ name ∈ snapshot.directories.map Entry.name,
      origin.find (pathOf plan.root (trail ++ [name])) = .ok (place ++ (trail ++ [name]), .directory) ∧
        name ≠ plan.settings.outputs.index) :
    Step.Repeats (Led plan place (plan.Indexes place) origin final none base)
      (fun _ later ahead => ∃ base', base'.leave trail.length = base.leave trail.length ∧
        Led plan place (plan.Indexes place) origin final none base' later ahead)
      (Step.visitChildren visit trail.length limit) := by
  induction limit generalizing base snapshot with
  | zero => exact Step.Repeats.pure fun _ _ led => ⟨base, rfl, led⟩
  | succ limit ih =>
      rintro state ahead ⟨working, files⟩ value later run
      have still : state.arena.unmarked = base := working.still
      have moved : (state.arena.advance trail.length).2.unmarked = (base.advance trail.length).2 :=
        (state.arena.unmarked_advance trail.length).trans
          (congrArg (fun arena => (arena.advance trail.length).2) still)
      have outer := base.leave_advance trail.length
      have led : Led plan place (plan.Indexes place) origin final none (base.advance trail.length).2
          { state with arena := (state.arena.advance trail.length).2 } ahead :=
        ⟨working.touched moved, files⟩
      have still' : ({ state with files := ahead } : State).arena.unmarked = base := still
      rw [Step.visitChildren_succ visit trail.length limit still, seen, Option.bind_some] at run
      rw [Step.visitChildren_succ visit trail.length limit still', seen, Option.bind_some]
      cases next : snapshot.nextDirectory? with
      | none =>
          rw [next] at run
          cases run
          exact ⟨ahead, rfl, _, outer, led⟩
      | some name =>
          rw [next] at run
          obtain ⟨found, other⟩ := leads name (Snapshot.mem_of_nextDirectory? sorted next)
          have seen' : (base.advance trail.length).2.get? trail.length = some snapshot.advance.2 :=
            Arena.found_advance seen
          have onward : Step.Repeats
              (Led plan place (plan.Indexes place) origin final none (base.advance trail.length).2)
              (fun _ later ahead => ∃ base', base'.leave trail.length = base.leave trail.length ∧
                Led plan place (plan.Indexes place) origin final none base' later ahead)
              (do
                visit name
                Step.visitChildren visit trail.length limit) := by
            refine (visits name _ (spells.above seen next) found other).bind fun _ => ?_
            rw [← outer]
            exact ih (by rw [Arena.Spells, Arena.rungs_advance]; exact spells) seen'
              ⟨sorted.directories, sorted.files⟩ leads
          exact onward _ ahead led value later run

variable (stock : plan.settings = .stock) (apart : plan.settings.Apart)
  (valid : plan.settings.defect? = none)
include stock apart

/-- A directory that has been entered is written, and those that it lists are gone to, in both. -/
theorem explore_follows {levels : Nat} {sidecars : List String}
    (visits : ∀ name base, Arena.Above base (some trail.length) (trail ++ [name]) →
      origin.find (pathOf plan.root (trail ++ [name])) = .ok (place ++ (trail ++ [name]), .directory) →
      name ≠ plan.settings.outputs.index →
      Follows plan place (plan.Indexes place) origin final none base
        (Step.visit plan levels (some trail.length) (Path.join (pathOf plan.root trail) name)))
    (writing : Writing plan place origin (base.push listing) trail.length (pathOf plan.root trail)
      (place ++ trail) listing)
    (spells : (base.push listing).Spells trail) (sorted : listing.Sorted)
    (leads : ∀ name ∈ listing.directories.map Entry.name,
      origin.find (pathOf plan.root (trail ++ [name])) = .ok (place ++ (trail ++ [name]), .directory) ∧
        name ≠ plan.settings.outputs.index)
    (others : ∀ sidecar ∈ sidecars, IsEntryName sidecar ∧
      Sidecar.announced? plan.settings.conventions sidecar ≠ some plan.settings.outputs.index) :
    Step.Repeats
      (Led plan place (plan.Indexes place) origin final (some trail.length) (base.push listing))
      (fun _ => Led plan place (plan.Indexes place) origin final none base)
      (Step.explore plan levels trail.length (pathOf plan.root trail) sidecars) := by
  have written : Step.Repeats
      (Led plan place (plan.Indexes place) origin final (some trail.length) (base.push listing))
      (fun count later ahead =>
        Led plan place (plan.Indexes place) origin final none (base.push listing) later ahead ∧
          count = listing.entries.length)
      (Step.writeDirectory plan trail.length (pathOf plan.root trail) sidecars) := by
    rintro state ahead ⟨working, files⟩ value later run
    rw [Step.writeDirectory_apply] at run
    exact writePages_follows ground stock apart writing _ sidecars others _ ahead
      ⟨working.told _, files⟩ value later run
  refine written.bind fun count => ?_
  refine ((visitChildren_follows visits (count + 1) spells writing.seen sorted leads).given
    fun _ _ both => both.1).bind fun _ => ?_
  refine Step.Repeats.modify fun state ahead ⟨base', outer, working, files⟩ => ?_
  have left : ((state.arena.resetCursor trail.length).leave trail.length).unmarked = base := by
    rw [Arena.left_of_unmarked working.still, outer, ← spells.depth_below]
    exact base.leave_push listing
  exact ⟨rfl, working.touched left, files⟩

include valid

/-- The second build visits the directories that the first visits. -/
theorem visit_follows
    (unannounced : ∀ directory, place <+: directory → origin.node? (directory ++
      [plan.settings.outputs.index ++ plan.settings.conventions.newsSuffix]) = none)
    (levels : Nat) {parent : Option Nat} (above : Arena.Above base parent trail)
    (found : origin.find (pathOf plan.root trail) = .ok (place ++ trail, .directory))
    (plain : plan.settings.outputs.index ∉ trail) :
    Follows plan place (plan.Indexes place) origin final none base
      (Step.visit plan levels parent (pathOf plan.root trail)) := by
  induction levels generalizing base parent trail with
  | zero => exact Step.Repeats.pure fun _ _ led => led
  | succ levels ih =>
      rintro state ahead ⟨working, files⟩ value later run
      have tree := working.tree ground
      have found' := working.found found
      have outputs := plan.outputs_indexes place
      obtain ⟨entryName, listing, taken, entered, spells, fresh, rests⟩ :=
        above.entered plan.settings working.still found'
      have same := entriesIn_same files.reworked outputs tree found' (List.prefix_append _ _) valid
        apart fun _ => id
      have news := newsSidecars_steady files.reworked outputs tree found' (List.prefix_append _ _) valid
        apart
      have entered' : ({ state with files := ahead } : State).arena.visit ahead plan.settings parent
          (pathOf plan.root trail) = .ok (state.arena.push listing, trail.length) := by
        rw [Arena.visit_eq found'] at entered
        rw [Arena.visit_eq (find_extends files.reworked.extended found')]
        unfold listingOf at entered ⊢
        rw [same]
        exact entered
      rw [Step.visit_entered entered] at run
      rw [Step.visit_entered entered', news]
      have writing := Writing.of_listing ground working found plain taken spells
      refine explore_follows ground stock apart (fun name base above found other => ?_) writing spells
        (taken ▸ listingOf_sorted ..) (fun name within => ?_)
        (fun sidecar => working.others ground apart unannounced found) _ ahead
        ⟨working.touched rests, files⟩ value later run
      · rw [← pathOf_concat]
        exact ih above found (by simp [plain, other.symm])
      · rw [taken] at within
        obtain ⟨included, leads, _⟩ := listingOf_leads tree found' (List.prefix_append _ _) within
        refine ⟨?_, fun index => ?_⟩
        · rw [pathOf_concat, ← List.append_assoc]
          exact find_extends working.reworked.narrowed leads
        · rw [index, classify_index apart] at included
          cases included

end
end

end SiteIndex.Build

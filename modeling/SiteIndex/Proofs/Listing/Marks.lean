import SiteIndex.Listing.Breadcrumbs

/-!
Marks and nothing else. Which snapshots lie above one, and all that a listing shows, is told without
the marks. Marking the way to a snapshot makes the marks on it what they are to be, whatever they were
before, so a walk down from the root goes the same way in all arenas that differ by their marks.
-/

namespace SiteIndex.Listing

/-- A snapshot without its mark. -/
def Snapshot.unmarked (snapshot : Snapshot) : Snapshot :=
  { snapshot with mark := none }

namespace Arena

theorem ext_get? {arena arena' : Arena} (same : ∀ id, arena.get? id = arena'.get? id) :
    arena = arena' := by
  cases arena
  cases arena'
  rw [Arena.mk.injEq]
  exact List.ext_getElem? same

theorem get?_update (arena : Arena) (id other : Nat) (change : Snapshot → Snapshot) :
    (arena.update id change).get? other =
      (arena.get? other).map fun snapshot => if id = other then change snapshot else snapshot := by
  simp [get?, update, List.getElem?_modify]

/-- The arena without its marks. -/
def unmarked (arena : Arena) : Arena :=
  ⟨arena.snapshots.map Snapshot.unmarked⟩

theorem get?_unmarked (arena : Arena) (id : Nat) :
    arena.unmarked.get? id = (arena.get? id).map Snapshot.unmarked := by
  simp [get?, unmarked]

/-- Where arenas differ in marks alone, so do their snapshots. -/
theorem found_of_unmarked {arena arena' : Arena} (same : arena.unmarked = arena'.unmarked) {id : Nat}
    {snapshot : Snapshot} (found : arena'.get? id = some snapshot) :
    ∃ snapshot', arena.get? id = some snapshot' ∧ snapshot'.unmarked = snapshot.unmarked := by
  have here := congrArg (·.get? id) same
  simp only [get?_unmarked, found, Option.map_some] at here
  exact Option.map_eq_some_iff.mp here

theorem unmarked_unmarked (arena : Arena) : arena.unmarked.unmarked = arena.unmarked := by
  refine ext_get? fun id => ?_
  rw [get?_unmarked, get?_unmarked, Option.map_map]
  rfl

theorem depth_unmarked (arena : Arena) : arena.unmarked.depth = arena.depth := by
  simp [depth, unmarked]

theorem unmarked_update (arena : Arena) (id : Nat) {change : Snapshot → Snapshot}
    (same : ∀ snapshot, (change snapshot).unmarked = change snapshot.unmarked) :
    (arena.update id change).unmarked = arena.unmarked.update id change := by
  refine ext_get? fun other => ?_
  simp only [get?_unmarked, get?_update, Option.map_map]
  congr 1
  funext snapshot
  simp only [Function.comp]
  split <;> simp [same]

theorem unmarked_setMark (arena : Arena) (id : Nat) (mark : Option Nat) :
    (arena.setMark id mark).unmarked = arena.unmarked := by
  refine ext_get? fun other => ?_
  simp only [setMark, get?_unmarked, get?_update, Option.map_map]
  congr 1
  funext snapshot
  simp only [Function.comp]
  split <;> rfl

theorem unmarked_advance (arena : Arena) (id : Nat) :
    (arena.advance id).2.unmarked = (arena.unmarked.advance id).2 := by
  simp only [advance, get?_unmarked]
  cases arena.get? id with
  | none => rfl
  | some snapshot => exact unmarked_update arena id fun _ => rfl

theorem unmarked_resetCursor (arena : Arena) (id : Nat) :
    (arena.resetCursor id).unmarked = arena.unmarked.resetCursor id :=
  unmarked_update arena id fun _ => rfl

theorem unmarked_push (arena : Arena) (snapshot : Snapshot) :
    (arena.push snapshot).unmarked = arena.unmarked.push snapshot.unmarked := by
  simp [push, unmarked]

theorem unmarked_leave (arena : Arena) (id : Nat) :
    (arena.leave id).unmarked = arena.unmarked.leave id := by
  simp [leave, unmarked]

/-- The arena without its marks, the cursor of one snapshot reset. -/
def still (arena : Arena) : (directory : Option Nat) → Arena
  | none => arena.unmarked
  | some id => arena.unmarked.resetCursor id

theorem still_of_unmarked {arena arena' : Arena} (same : arena.unmarked = arena'.unmarked)
    (directory : Option Nat) : arena.still directory = arena'.still directory := by
  cases directory with
  | none => exact same
  | some id => simp only [still, same]

/-- What the cursor of the snapshot was plays no part. -/
theorem still_resetCursor (arena : Arena) (id : Nat) :
    (arena.resetCursor id).still (some id) = arena.still (some id) := by
  refine ext_get? fun other => ?_
  change ((arena.resetCursor id).unmarked.resetCursor id).get? other =
    (arena.unmarked.resetCursor id).get? other
  rw [unmarked_resetCursor]
  simp only [resetCursor, get?_update]
  cases arena.unmarked.get? other with
  | none => rfl
  | some snapshot =>
      by_cases here : id = other
      · simp [here, Snapshot.resetCursor]
      · simp [here]

theorem get?_still (arena : Arena) (directory : Option Nat) :
    directory.bind (arena.still directory).get? =
      (directory.bind arena.get?).map fun snapshot => snapshot.unmarked.resetCursor := by
  cases directory with
  | none => rfl
  | some id =>
      simp only [Option.bind_some, still, resetCursor, get?_update, get?_unmarked, if_true,
        Option.map_map]
      rfl

/-- What is seen of a snapshot when it is still. -/
theorem seen_of_still {arena base : Arena} {id : Nat} {listing : Snapshot}
    (still : arena.still (some id) = base) (seen : base.get? id = some listing) :
    ∃ snapshot, arena.get? id = some snapshot ∧ snapshot.unmarked.resetCursor = listing := by
  have shown := arena.get?_still (some id)
  rw [still, Option.bind_some, Option.bind_some, seen] at shown
  obtain ⟨snapshot, found, same⟩ := Option.map_eq_some_iff.mp shown.symm
  exact ⟨snapshot, found, same⟩

/-- What a snapshot lists is seen as well in another arena that is the same when it is still. -/
theorem seen_alike {arena arena' : Arena} {directory : Option Nat} {snapshot : Snapshot}
    (still : arena.still directory = arena'.still directory)
    (seen : directory.bind arena.get? = some snapshot) :
    ∃ snapshot', directory.bind arena'.get? = some snapshot' ∧ snapshot'.path = snapshot.path ∧
      snapshot'.entries = snapshot.entries := by
  have before := congrArg (directory.bind ·.get?) still
  rw [get?_still, get?_still, seen] at before
  obtain ⟨snapshot', found, same⟩ := Option.map_eq_some_iff.mp before.symm
  exact ⟨snapshot', found, (congrArg Snapshot.path same :), (congrArg Snapshot.entries same :)⟩

/-- With the cursor the arenas are the same again. -/
theorem unmarked_of_cursor {arena arena' : Arena} {directory : Option Nat}
    (still : arena.still directory = arena'.still directory)
    (cursor : (directory.bind arena.get?).map Snapshot.cursor =
      (directory.bind arena'.get?).map Snapshot.cursor) : arena.unmarked = arena'.unmarked := by
  cases directory with
  | none => exact still
  | some id =>
      refine ext_get? fun other => ?_
      have same := congrArg (·.get? other) still
      simp only [Arena.still, resetCursor, get?_update] at same
      by_cases here : id = other
      · subst here
        simp only [Option.bind_some] at cursor
        simp only [get?_unmarked, if_true] at same ⊢
        cases first : arena.get? id <;> cases second : arena'.get? id <;>
          simp only [first, second, Option.map_none, Option.map_some, reduceCtorEq,
            Option.some.injEq] at same cursor ⊢
        next snapshot snapshot' =>
        cases snapshot
        cases snapshot'
        simp_all [Snapshot.unmarked, Snapshot.resetCursor]
      · simpa only [if_neg here, Option.map_id'] using same

theorem lineageWithin_congr {arena arena' : Arena} (same : ∀ id,
    (arena.get? id).map Snapshot.parent = (arena'.get? id).map Snapshot.parent) (steps id : Nat) :
    arena.lineageWithin steps id = arena'.lineageWithin steps id := by
  induction steps generalizing id with
  | zero =>
      have parent := same id
      unfold lineageWithin
      cases first : arena.get? id <;> cases second : arena'.get? id <;> simp_all
  | succ steps ih =>
      have parent := same id
      unfold lineageWithin
      cases first : arena.get? id with
      | none => cases second : arena'.get? id <;> simp_all
      | some snapshot =>
          cases second : arena'.get? id with
          | none => simp_all
          | some snapshot' =>
              rw [first, second, Option.map_some, Option.map_some, Option.some.injEq] at parent
              simp only [parent]
              cases snapshot'.parent with
              | none => rfl
              | some above => simp only [ih]

/-- What lies above a snapshot is told by the parents. -/
theorem lineage_congr {arena arena' : Arena} (same : ∀ id,
    (arena.get? id).map Snapshot.parent = (arena'.get? id).map Snapshot.parent) (id : Nat) :
    arena.lineage id = arena'.lineage id :=
  lineageWithin_congr same id id

theorem lineage_unmarked (arena : Arena) (id : Nat) :
    arena.unmarked.lineage id = arena.lineage id :=
  lineage_congr (fun other => by rw [get?_unmarked, Option.map_map]; rfl) id

theorem get?_advance (arena : Arena) (id other : Nat) :
    (arena.advance id).2.get? other =
      (arena.get? other).map fun snapshot =>
        if id = other then snapshot.advance.2 else snapshot := by
  unfold advance
  cases found : arena.get? id with
  | some snapshot => exact get?_update _ _ _ _
  | none =>
      by_cases here : id = other
      · rw [← here, found]
        rfl
      · simp only [if_neg here, Option.map_id']

theorem found_advance {arena : Arena} {id : Nat} {snapshot : Snapshot}
    (found : arena.get? id = some snapshot) :
    (arena.advance id).2.get? id = some snapshot.advance.2 := by
  rw [get?_advance, found, Option.map_some, if_pos rfl]

/-- Where the cursor has moved on to plays no part. -/
theorem still_advance (arena : Arena) (id : Nat) :
    (arena.advance id).2.still (some id) = arena.still (some id) := by
  change (arena.advance id).2.unmarked.resetCursor id = arena.unmarked.resetCursor id
  rw [unmarked_advance]
  refine ext_get? fun other => ?_
  simp only [resetCursor, get?_update, get?_advance, Option.map_map]
  congr 1
  funext snapshot
  simp only [Function.comp]
  split <;> rfl

theorem lineage_advance (arena : Arena) (id other : Nat) :
    (arena.advance id).2.lineage other = arena.lineage other := by
  refine lineage_congr (fun third => ?_) other
  rw [get?_advance, Option.map_map]
  congr 1
  funext snapshot
  simp only [Function.comp]
  split <;> rfl

/-- Arenas that differ by marks at the most, and not by those along some snapshots. -/
structure Accordant (along : Nat → Prop) (arena arena' : Arena) : Prop where
  unmarked : arena.unmarked = arena'.unmarked
  marks : ∀ id, along id →
    (arena.get? id).bind Snapshot.mark = (arena'.get? id).bind Snapshot.mark

section
variable {along : Nat → Prop} {arena arena' : Arena}

theorem Accordant.get? (accordant : Accordant along arena arena') (id : Nat) :
    (arena.get? id).map Snapshot.unmarked = (arena'.get? id).map Snapshot.unmarked := by
  rw [← get?_unmarked, ← get?_unmarked, accordant.unmarked]

theorem Accordant.mono {along' : Nat → Prop} (accordant : Accordant along arena arena')
    (fewer : ∀ id, along' id → along id) : Accordant along' arena arena' :=
  ⟨accordant.unmarked, fun id within => accordant.marks id (fewer id within)⟩

theorem Accordant.advance (accordant : Accordant along arena arena') (id : Nat) :
    Accordant along (arena.advance id).2 (arena'.advance id).2 where
  unmarked := by rw [unmarked_advance, unmarked_advance, accordant.unmarked]
  marks other within := by
    have kept (arena : Arena) :
        ((arena.advance id).2.get? other).bind Snapshot.mark =
          (arena.get? other).bind Snapshot.mark := by
      rw [get?_advance]
      cases arena.get? other with
      | none => rfl
      | some snapshot =>
          simp only [Option.map_some, Option.bind_some]
          split <;> rfl
    rw [kept, kept, accordant.marks other within]

theorem Accordant.lineage (accordant : Accordant along arena arena') (id : Nat) :
    arena.lineage id = arena'.lineage id := by
  rw [← lineage_unmarked arena, accordant.unmarked, lineage_unmarked]

theorem Accordant.setMark (accordant : Accordant along arena arena') (id : Nat)
    (mark : Option Nat) :
    Accordant (fun other => along other ∨ other = id) (arena.setMark id mark)
      (arena'.setMark id mark) where
  unmarked := by rw [unmarked_setMark, unmarked_setMark, accordant.unmarked]
  marks other within := by
    have present := congrArg Option.isSome (accordant.get? other)
    simp only [Option.isSome_map] at present
    simp only [Arena.setMark, get?_update]
    by_cases here : id = other
    · simp only [if_pos here]
      cases first : arena.get? other <;> cases second : arena'.get? other <;> simp_all
    · have marks := accordant.marks other (within.resolve_right fun same => here same.symm)
      simpa only [if_neg here, Option.map_id'] using marks

theorem Accordant.setMarks (accordant : Accordant along arena arena')
    (marks : List (Nat × Option Nat)) :
    Accordant (fun other => along other ∨ other ∈ marks.map Prod.fst)
      (marks.foldl (fun arena (id, mark) => arena.setMark id mark) arena)
      (marks.foldl (fun arena (id, mark) => arena.setMark id mark) arena') := by
  induction marks generalizing along arena arena' with
  | nil => simpa using accordant
  | cons head rest ih =>
      have next := ih (accordant.setMark head.1 head.2)
      refine ⟨next.unmarked, fun other within => next.marks other ?_⟩
      simpa [or_assoc] using within

theorem clearMarks_eq (arena : Arena) (id : Nat) :
    arena.clearMarks id =
      ((arena.lineage id).map fun id => (id, none)).foldl
        (fun arena (id, mark) => arena.setMark id mark) arena := by
  simp [clearMarks, List.foldl_map]

theorem markWay_eq (arena : Arena) (id : Nat) :
    arena.markWay id =
      (((arena.lineage id).zip (arena.lineage id).tail).map fun (child, parent) =>
        (parent, some child)).foldl
          (fun arena (id, mark) => arena.setMark id mark) (arena.clearMarks id) := by
  simp [markWay, List.foldl_map]

/-- Marking the way leaves the same marks on it, whatever marks there were. -/
theorem accordant_markWay (same : arena.unmarked = arena'.unmarked) (id : Nat) :
    Accordant (· ∈ arena.lineage id) (arena.markWay id) (arena'.markWay id) := by
  have start : Accordant (fun _ => False) arena arena' := ⟨same, fun _ => False.elim⟩
  have cleared := start.setMarks ((arena.lineage id).map fun id => (id, none))
  have marked := cleared.setMarks
    (((arena.lineage id).zip (arena.lineage id).tail).map fun (child, parent) =>
      (parent, some child))
  rw [← clearMarks_eq, ← markWay_eq] at marked
  rw [start.lineage id, ← clearMarks_eq, ← markWay_eq] at marked
  refine ⟨marked.unmarked, fun other within => marked.marks other (.inl (.inr ?_))⟩
  rw [← start.lineage id]
  simpa using within

theorem unmarked_foldl_setMark (arena : Arena) (marks : List (Nat × Option Nat)) :
    (marks.foldl (fun arena (id, mark) => arena.setMark id mark) arena).unmarked =
      arena.unmarked := by
  induction marks generalizing arena with
  | nil => rfl
  | cons head rest ih => exact (ih _).trans (unmarked_setMark arena head.1 head.2)

theorem unmarked_markWay (arena : Arena) (id : Nat) :
    (arena.markWay id).unmarked = arena.unmarked := by
  rw [markWay_eq, unmarked_foldl_setMark, clearMarks_eq, unmarked_foldl_setMark]

theorem unmarked_nextSegment (arena : Arena) (id : Nat) :
    (arena.nextSegment id).2.unmarked = arena.unmarked := by
  unfold nextSegment
  split
  · rfl
  · split
    · rfl
    · exact unmarked_setMark _ _ _

theorem unmarked_segments (arena : Arena) (id limit : Nat) :
    (arena.segments id limit).2.unmarked = arena.unmarked := by
  induction limit generalizing arena with
  | zero => rfl
  | succ limit ih =>
      have step := unmarked_nextSegment arena id
      unfold segments
      revert step
      rcases arena.nextSegment id with ⟨_ | name, next⟩
      · exact fun step => step
      · exact (ih next).trans

theorem unmarked_pathString (arena : Arena) (id : Nat) :
    (arena.pathString id).2.unmarked = arena.unmarked := by
  simp only [pathString]
  exact (unmarked_segments _ id _).trans (unmarked_markWay arena id)

theorem still_pathString (arena : Arena) (id : Nat) (directory : Option Nat) :
    (arena.pathString id).2.still directory = arena.still directory :=
  still_of_unmarked (arena.unmarked_pathString id) directory

/-- The top of a marked stretch lies on the way. -/
theorem topMarked?_mem {id top : Nat} (found : arena.topMarked? id = some top) :
    top ∈ arena.lineage id := by
  unfold topMarked? at found
  cases line : arena.lineage id with
  | nil => simp [line] at found
  | cons first ancestors =>
      simp only [line, Option.some.injEq] at found
      subst found
      cases last : (ancestors.takeWhile arena.isMarked).getLast? with
      | none => exact List.mem_cons_self
      | some ancestor =>
          exact List.mem_cons_of_mem _
            ((List.takeWhile_prefix _).subset (List.mem_of_getLast? last))

section
variable {id : Nat} (accordant : Accordant along arena arena')
  (covered : ∀ other ∈ arena.lineage id, along other)
include accordant covered

theorem Accordant.topMarked? : arena.topMarked? id = arena'.topMarked? id := by
  have marked (other : Nat) (within : other ∈ arena.lineage id) :
      arena.isMarked other = arena'.isMarked other := by
    have marks := accordant.marks other (covered other within)
    simp only [isMarked]
    cases first : arena.get? other <;> cases second : arena'.get? other <;> simp_all
  have stretch (line : List Nat) (within : ∀ other ∈ line, other ∈ arena.lineage id) :
      line.takeWhile arena.isMarked = line.takeWhile arena'.isMarked := by
    induction line with
    | nil => rfl
    | cons first rest ih =>
        rw [List.takeWhile_cons, List.takeWhile_cons, marked first (within first (by simp)),
          ih fun other inside => within other (List.mem_cons_of_mem _ inside)]
  unfold Arena.topMarked?
  rw [← accordant.lineage id]
  cases line : arena.lineage id with
  | nil => rfl
  | cons first ancestors =>
      dsimp only
      rw [stretch ancestors fun other inside => line ▸ List.mem_cons_of_mem _ inside]

theorem Accordant.nextSegment :
    (arena.nextSegment id).1 = (arena'.nextSegment id).1 ∧
      Accordant along (arena.nextSegment id).2 (arena'.nextSegment id).2 := by
  unfold Arena.nextSegment
  rw [← accordant.topMarked? covered]
  cases found : arena.topMarked? id with
  | none => exact ⟨rfl, accordant⟩
  | some top =>
      dsimp only
      rw [← accordant.marks top (covered top (topMarked?_mem found))]
      cases (arena.get? top).bind Snapshot.mark with
      | none => exact ⟨rfl, accordant⟩
      | some child =>
          have named := accordant.get? child
          refine ⟨?_, ?_⟩
          · dsimp only
            cases first : arena.get? child <;> cases second : arena'.get? child <;>
              simp_all [Snapshot.unmarked]
          · have next := accordant.setMark top none
            exact ⟨next.unmarked, fun other within => next.marks other (.inl within)⟩

theorem Accordant.segments (limit : Nat) :
    (arena.segments id limit).1 = (arena'.segments id limit).1 := by
  induction limit generalizing arena arena' with
  | zero => rfl
  | succ limit ih =>
      have covered' : ∀ other ∈ (arena.nextSegment id).2.lineage id, along other := by
        rwa [← lineage_unmarked, unmarked_nextSegment, lineage_unmarked]
      obtain ⟨same, next⟩ := accordant.nextSegment covered
      have rest := ih next covered'
      unfold Arena.segments
      revert same rest
      rcases arena.nextSegment id with ⟨_ | name, later⟩ <;>
        rcases arena'.nextSegment id with ⟨_ | name', later'⟩ <;>
        intro same rest <;> simp_all

end

/-- The way down to a snapshot is told without the marks. -/
theorem pathString_congr (same : arena.unmarked = arena'.unmarked) (id : Nat) :
    (arena.pathString id).1 = (arena'.pathString id).1 := by
  have marked := accordant_markWay same id
  have depth : arena.depth = arena'.depth := by
    rw [← depth_unmarked, same, depth_unmarked]
  have covered : ∀ other ∈ (arena.markWay id).lineage id, other ∈ arena.lineage id := by
    rw [← lineage_unmarked, unmarked_markWay, lineage_unmarked]
    exact fun _ within => within
  simp only [pathString]
  rw [← depth, marked.segments covered]

end

/-- The snapshots on the way to a directory, once the way has been marked. -/
def AlongWay (directory : Option Nat) (onWay : Bool) (arena : Arena) (other : Nat) : Prop :=
  onWay = true ∧ ∃ id, directory = some id ∧ other ∈ arena.lineage id

section
variable {directory : Option Nat} {onWay : Bool} {id : Nat} {along : Nat → Prop} {arena arena' : Arena}

theorem Accordant.seen (accordant : Accordant along arena arena') (directory : Option Nat) :
    (directory.bind arena.get?).map Snapshot.unmarked =
      (directory.bind arena'.get?).map Snapshot.unmarked := by
  cases directory with
  | none => rfl
  | some id => exact accordant.get? id

theorem Accordant.levels (accordant : Accordant along arena arena') (directory : Option Nat) :
    directory.map arena.levelsBelowRoot = directory.map arena'.levelsBelowRoot := by
  cases directory with
  | none => rfl
  | some id => simp only [Option.map_some, levelsBelowRoot, accordant.lineage id]

theorem Accordant.advance_alongWay (accordant : Accordant (AlongWay directory onWay arena) arena arena')
    (id : Nat) :
    Accordant (AlongWay directory onWay (arena.advance id).2) (arena.advance id).2
      (arena'.advance id).2 := by
  refine (accordant.advance id).mono fun other within => ?_
  simpa only [AlongWay, lineage_advance] using within

theorem accordant_markWay_alongWay (same : arena.unmarked = arena'.unmarked)
    (here : directory = some id) :
    Accordant (AlongWay directory true (arena.markWay id)) (arena.markWay id) (arena'.markWay id) := by
  refine (accordant_markWay same id).mono ?_
  rintro other ⟨_, id', there, within⟩
  cases here.symm.trans there
  rwa [← lineage_unmarked, unmarked_markWay, lineage_unmarked] at within

theorem Accordant.nextSegment_alongWay (accordant : Accordant (AlongWay directory true arena) arena arena')
    (here : directory = some id) :
    (arena.nextSegment id).1 = (arena'.nextSegment id).1 ∧
      Accordant (AlongWay directory true (arena.nextSegment id).2) (arena.nextSegment id).2
        (arena'.nextSegment id).2 := by
  obtain ⟨same, stepped⟩ := accordant.nextSegment fun other within => ⟨rfl, id, here, within⟩
  refine ⟨same, stepped.mono fun other within => ?_⟩
  simpa only [AlongWay, ← lineage_unmarked (arena.nextSegment id).2, unmarked_nextSegment,
    lineage_unmarked] using within

end
end Arena
end SiteIndex.Listing

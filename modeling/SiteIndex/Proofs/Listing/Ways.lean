import Mathlib.Data.Finset.Card
import Mathlib.Data.List.Chain
import SiteIndex.Proofs.Listing.Marks

/-!
Walks down to a snapshot. The names on the way from the root are told by the snapshots along it, and a walk
that marking the way has begun gives one of them after another. Where it has come to is told by the marks
alone, so whatever leaves these as they are may be done between two steps.
-/

namespace SiteIndex.Listing

/-- The names on the way, a slash after each. -/
def wayOf (trail : List String) : String :=
  String.join (trail.map (· ++ "/"))

namespace Arena

/-- By which number and under which name each snapshot hangs on one before it. -/
def rungs (arena : Arena) : List (Option Nat × Option String) :=
  arena.snapshots.map fun snapshot => (snapshot.parent, snapshot.entryName)

theorem getElem?_rungs (arena : Arena) (id : Nat) :
    arena.rungs[id]? =
      (arena.get? id).map fun snapshot => (snapshot.parent, snapshot.entryName) := by
  simp [rungs, Arena.get?]

theorem rungs_update (arena : Arena) (id : Nat) {change : Snapshot → Snapshot}
    (parent : ∀ snapshot, (change snapshot).parent = snapshot.parent)
    (name : ∀ snapshot, (change snapshot).entryName = snapshot.entryName) :
    (arena.update id change).rungs = arena.rungs := by
  refine List.ext_getElem? fun other => ?_
  rw [getElem?_rungs, getElem?_rungs, get?_update, Option.map_map]
  refine congrArg (Option.map · _) (funext fun snapshot => ?_)
  by_cases here : id = other <;> simp [here, parent, name]

theorem rungs_advance (arena : Arena) (id : Nat) : (arena.advance id).2.rungs = arena.rungs := by
  unfold advance
  cases arena.get? id with
  | none => rfl
  | some snapshot => exact arena.rungs_update id (fun _ => rfl) (fun _ => rfl)

theorem rungs_unmarked (arena : Arena) : arena.unmarked.rungs = arena.rungs := by
  refine List.ext_getElem? fun other => ?_
  rw [getElem?_rungs, getElem?_rungs, get?_unmarked, Option.map_map]
  rfl

theorem rungs_of_unmarked {arena arena' : Arena} (same : arena.unmarked = arena'.unmarked) :
    arena.rungs = arena'.rungs := by
  rw [← rungs_unmarked, same, rungs_unmarked]

theorem rungs_still (arena : Arena) (spot : Option Nat) : (arena.still spot).rungs = arena.rungs := by
  cases spot with
  | none => exact arena.rungs_unmarked
  | some id =>
      exact (@rungs_update arena.unmarked id Snapshot.resetCursor (fun _ => rfl)
        (fun _ => rfl)).trans arena.rungs_unmarked

theorem rungs_of_still {arena arena' : Arena} {spot : Option Nat}
    (same : arena.still spot = arena'.still spot) : arena.rungs = arena'.rungs := by
  rw [← arena.rungs_still spot, same, arena'.rungs_still]

theorem lineage_of_rungs {arena arena' : Arena} (same : arena.rungs = arena'.rungs) (id : Nat) :
    arena.lineage id = arena'.lineage id := by
  refine lineage_congr (fun other => ?_) id
  have rung := congrArg (Option.map Prod.fst) (congrArg (·[other]?) same)
  rw [getElem?_rungs, getElem?_rungs, Option.map_map, Option.map_map] at rung
  exact rung

/-- What a step onto the snapshot tells. -/
def nameOf (arena : Arena) (id : Nat) : String :=
  ((arena.get? id).bind Snapshot.entryName).getD unnamedSegment

theorem nameOf_of_rungs {arena arena' : Arena} (same : arena.rungs = arena'.rungs) (id : Nat) :
    arena.nameOf id = arena'.nameOf id := by
  have rung := congrArg (·[id]?) same
  simp only [getElem?_rungs] at rung
  unfold nameOf
  cases first : arena.get? id <;> cases second : arena'.get? id <;> simp_all

/-- The mark of a snapshot, if there is one. -/
def markOf (arena : Arena) (id : Nat) : Option Nat :=
  (arena.get? id).bind Snapshot.mark

/-- What a step does, told by names and marks. -/
theorem nextSegment_eq (arena : Arena) (id : Nat) :
    arena.nextSegment id =
      match arena.topMarked? id with
      | none => (none, arena)
      | some top =>
          match arena.markOf top with
          | none => (none, arena)
          | some child => (some (arena.nameOf child), arena.setMark top none) := rfl

theorem isMarked_eq (arena : Arena) (id : Nat) : arena.isMarked id = (arena.markOf id).isSome := by
  cases found : arena.get? id <;> simp [isMarked, markOf, found]

theorem depth_setMark (arena : Arena) (id : Nat) (mark : Option Nat) :
    (arena.setMark id mark).depth = arena.depth := by
  simp [setMark, update, depth]

theorem markOf_setMark_other (arena : Arena) {id other : Nat} (apart : other ≠ id)
    (mark : Option Nat) : (arena.setMark id mark).markOf other = arena.markOf other := by
  simp [markOf, setMark, get?_update, Ne.symm apart]

theorem markOf_setMark_self (arena : Arena) {id : Nat} (present : id < arena.depth)
    (mark : Option Nat) : (arena.setMark id mark).markOf id = mark := by
  obtain ⟨snapshot, found⟩ : ∃ snapshot, arena.get? id = some snapshot :=
    ⟨_, List.getElem?_eq_getElem present⟩
  simp [markOf, setMark, get?_update, found]

theorem markOf_setMark_none (arena : Arena) (id other : Nat) :
    (arena.setMark id none).markOf other = if other = id then none else arena.markOf other := by
  split
  · next here =>
    subst here
    cases found : arena.get? other <;> simp [markOf, setMark, get?_update, found]
  · next apart => exact arena.markOf_setMark_other apart none

theorem markOf_advance (arena : Arena) (id other : Nat) :
    (arena.advance id).2.markOf other = arena.markOf other := by
  unfold markOf
  rw [get?_advance]
  cases arena.get? other with
  | none => rfl
  | some snapshot =>
      simp only [Option.map_some, Option.bind_some]
      split <;> rfl

theorem markOf_clearMarks (arena : Arena) (id other : Nat) :
    (arena.clearMarks id).markOf other =
      if other ∈ arena.lineage id then none else arena.markOf other := by
  unfold clearMarks
  generalize arena.lineage id = line
  induction line generalizing arena with
  | nil => simp
  | cons first rest ih =>
      rw [List.foldl_cons, ih, markOf_setMark_none]
      by_cases here : other = first <;> simp [here]

theorem depth_clearMarks (arena : Arena) (id : Nat) : (arena.clearMarks id).depth = arena.depth := by
  rw [← depth_unmarked, clearMarks_eq, unmarked_foldl_setMark, depth_unmarked]

/-- Marks every snapshot of a line but the first with the one that comes before it. -/
def markLine (arena : Arena) (line : List Nat) : Arena :=
  (line.zip line.tail).foldl (fun arena (child, parent) => arena.setMark parent (some child)) arena

theorem markLine_cons (arena : Arena) (child parent : Nat) (rest : List Nat) :
    arena.markLine (child :: parent :: rest) =
      (arena.setMark parent (some child)).markLine (parent :: rest) := rfl

theorem markOf_markLine_other (arena : Arena) {line : List Nat} {other : Nat}
    (apart : other ∉ line.tail) : (arena.markLine line).markOf other = arena.markOf other := by
  induction line generalizing arena with
  | nil => rfl
  | cons child above ih =>
      cases above with
      | nil => rfl
      | cons parent rest =>
          obtain ⟨here, further⟩ := List.ne_and_not_mem_of_not_mem_cons apart
          rw [markLine_cons, ih _ further, arena.markOf_setMark_other here]

/-- In a line that goes through no snapshot twice every snapshot is marked with the one before it. -/
theorem isChain_markLine {arena : Arena} {line : List Nat} (once : line.Nodup)
    (present : ∀ id ∈ line, id < arena.depth) :
    line.IsChain fun child parent => (arena.markLine line).markOf parent = some child := by
  induction line generalizing arena with
  | nil => exact .nil
  | cons child above ih =>
      cases above with
      | nil => exact .singleton child
      | cons parent rest =>
          rw [markLine_cons]
          refine .cons_cons ?_ (ih once.of_cons fun id within => ?_)
          · rw [markOf_markLine_other _ (List.nodup_cons.mp once.of_cons).1,
              arena.markOf_setMark_self (present parent (by simp))]
          · rw [depth_setMark]
            exact present id (List.mem_cons_of_mem _ within)

/-- Marking the way to a snapshot leaves no mark on the line but above the snapshot. -/
theorem markOf_markWay_of_not_mem (arena : Arena) {id other : Nat} (within : other ∈ arena.lineage id)
    (apart : other ∉ (arena.lineage id).tail) : (arena.markWay id).markOf other = none := by
  change ((arena.clearMarks id).markLine (arena.lineage id)).markOf other = none
  rw [markOf_markLine_other _ apart, markOf_clearMarks, if_pos within]

theorem present_of_mem_lineageWithin {arena : Arena} {steps id other : Nat}
    (within : other ∈ arena.lineageWithin steps id) : other < arena.depth := by
  have found (id : Nat) (snapshot : Snapshot) (found : arena.get? id = some snapshot) :
      id < arena.depth := (List.getElem?_eq_some_iff.mp found).1
  induction steps generalizing id with
  | zero =>
      unfold lineageWithin at within
      cases here : arena.get? id with
      | none => simp [here] at within
      | some snapshot =>
          simp only [here, List.mem_singleton] at within
          exact within ▸ found id snapshot here
  | succ steps ih =>
      unfold lineageWithin at within
      cases here : arena.get? id with
      | none => simp [here] at within
      | some snapshot =>
          cases parent : snapshot.parent with
          | none =>
              simp only [here, parent, List.mem_singleton] at within
              exact within ▸ found id snapshot here
          | some above =>
              simp only [here, parent, List.mem_cons] at within
              rcases within with rfl | further
              · exact found other snapshot here
              · exact ih further

/-- The line above a snapshot begins with it. -/
theorem lineage_eq_cons {arena : Arena} {id other : Nat} {above : List Nat}
    (line : arena.lineage id = other :: above) : other = id := by
  unfold lineage lineageWithin at line
  split at line
  · cases line
  · split at line <;> exact (List.cons.inj line).1.symm

/-- These are the names under which the snapshots on the way down to one hang on each other. -/
inductive Leads (arena : Arena) : (names : List String) → (id : Nat) → Prop
  | root {id : Nat} {snapshot : Snapshot} (found : arena.get? id = some snapshot)
      (top : snapshot.parent = none) : Leads arena [] id
  | child {names : List String} {above id : Nat} {snapshot : Snapshot} {name : String}
      (leads : Leads arena names above) (found : arena.get? id = some snapshot)
      (parent : snapshot.parent = some above) (further : above < id)
      (entered : snapshot.entryName = some name) : Leads arena (names ++ [name]) id

theorem Leads.of_rungs {arena arena' : Arena} {names : List String} {id : Nat}
    (leads : arena.Leads names id) (same : arena'.rungs = arena.rungs) : arena'.Leads names id := by
  have found (id : Nat) (snapshot : Snapshot) (found : arena.get? id = some snapshot) :
      ∃ snapshot', arena'.get? id = some snapshot' ∧ snapshot'.parent = snapshot.parent ∧
        snapshot'.entryName = snapshot.entryName := by
    have rung := congrArg (·[id]?) same
    simp only [getElem?_rungs, found, Option.map_some] at rung
    obtain ⟨snapshot', found', alike⟩ := Option.map_eq_some_iff.mp rung
    exact ⟨snapshot', found', congrArg Prod.fst alike, congrArg Prod.snd alike⟩
  induction leads with
  | @root id snapshot here top =>
      obtain ⟨snapshot', here', parent', _⟩ := found id snapshot here
      exact .root here' (parent'.trans top)
  | @child names above id snapshot name leads here parent further entered ih =>
      obtain ⟨snapshot', here', parent', entered'⟩ := found id snapshot here
      exact .child ih here' (parent'.trans parent) further (entered'.trans entered)

/-- The way is the line above the snapshot turned round, and each name on it is told by a step onto the
next snapshot. -/
theorem Leads.line {arena : Arena} {names : List String} {id : Nat} (leads : arena.Leads names id) :
    ∃ root ahead, (∀ steps, id ≤ steps → arena.lineageWithin steps id = (root :: ahead).reverse) ∧
      ahead.map arena.nameOf = names ∧ (∀ other ∈ root :: ahead, other ≤ id) ∧
      (root :: ahead).Nodup := by
  induction leads with
  | @root id snapshot here top =>
      refine ⟨id, [], fun steps _ => ?_, rfl, by simp, by simp⟩
      cases steps <;> simp [lineageWithin, here, top]
  | @child names above id snapshot name leads here parent further entered ih =>
      obtain ⟨root, ahead, line, told, below, once⟩ := ih
      refine ⟨root, ahead ++ [id], fun steps enough => ?_, ?_, ?_, ?_⟩
      · obtain ⟨steps, rfl⟩ := Nat.exists_eq_succ_of_ne_zero (Nat.ne_zero_of_lt (further.trans_le enough))
        simp only [lineageWithin, here, parent, line steps (by omega)]
        simp
      · simp [told, nameOf, here, entered]
      · intro other within
        rw [← List.cons_append, List.mem_append, List.mem_singleton] at within
        rcases within with before | rfl
        · exact (below other before).trans (Nat.le_of_lt further)
        · exact Nat.le_refl other
      · rw [← List.cons_append]
        refine List.nodup_append.mpr ⟨once, by simp, ?_⟩
        rintro other before _ last rfl
        rw [List.mem_singleton] at last
        have bounded := below other before
        omega

/-- A directory is as many levels below the root as there are names on the way to it. -/
theorem Leads.levelsBelowRoot {arena : Arena} {names : List String} {id : Nat}
    (leads : arena.Leads names id) : arena.levelsBelowRoot id = names.length := by
  obtain ⟨root, ahead, line, told, _⟩ := leads.line
  rw [Arena.levelsBelowRoot, Arena.lineage, line id (Nat.le_refl id), ← told]
  simp

/-- A walk down to a snapshot that has come to the one before these names. -/
def OnWay (arena : Arena) (id : Nat) (names : List String) : Prop :=
  ∃ used start ahead, arena.lineage id = (used ++ start :: ahead).reverse ∧
    (used ++ start :: ahead).Nodup ∧ ahead.map arena.nameOf = names ∧
    (∀ other ∈ used, arena.markOf other = none) ∧
    (start :: ahead).IsChain (fun here next => arena.markOf here = some next) ∧
    arena.markOf id = none

/-- Nothing but the marks tells where a walk has come to. -/
theorem OnWay.of_rungs {arena arena' : Arena} {id : Nat} {names : List String}
    (onWay : arena.OnWay id names) (rungs : arena'.rungs = arena.rungs)
    (marks : arena'.markOf = arena.markOf) : arena'.OnWay id names := by
  obtain ⟨used, start, ahead, line, once, told, spent, chain, last⟩ := onWay
  have alike : arena'.nameOf = arena.nameOf := funext (nameOf_of_rungs rungs)
  exact ⟨used, start, ahead, (lineage_of_rungs rungs id).trans line, once, by rw [alike]; exact told,
    by rwa [marks], by rwa [marks], by rwa [marks]⟩

/-- A walk that is marked stands before all names. -/
theorem Leads.onWay_markWay {arena : Arena} {names : List String} {id : Nat}
    (leads : arena.Leads names id) : (arena.markWay id).OnWay id names := by
  obtain ⟨root, ahead, line, told, _, once⟩ := leads.line
  have line : arena.lineage id = (root :: ahead).reverse := line id (Nat.le_refl id)
  have rungs := rungs_of_unmarked (arena.unmarked_markWay id)
  have alike : (arena.markWay id).nameOf = arena.nameOf := funext (nameOf_of_rungs rungs)
  have chain := @isChain_markLine (arena.clearMarks id) (arena.lineage id)
    (line ▸ List.nodup_reverse.mpr once)
    fun other within => by rw [depth_clearMarks]; exact present_of_mem_lineageWithin within
  refine ⟨[], root, ahead, (lineage_of_rungs rungs id).trans line, once, by rw [alike]; exact told,
    nofun, ?_, ?_⟩
  · have turned := List.isChain_reverse.mpr chain
    rw [line, List.reverse_reverse] at turned
    rw [← line] at turned
    exact turned
  · have nodup := List.nodup_reverse.mpr once
    rw [← line] at nodup
    cases whole : arena.lineage id with
    | nil => simp [whole] at line
    | cons self above =>
        have here := lineage_eq_cons whole
        subst here
        rw [whole] at nodup
        refine arena.markOf_markWay_of_not_mem (whole ▸ List.mem_cons_self) ?_
        rw [whole]
        exact (List.nodup_cons.mp nodup).1

/-- Of a chain of marks all but the last snapshot are marked. -/
theorem isMarked_of_chain {arena : Arena} {line : List Nat} {last : Nat}
    (chain : (line ++ [last]).IsChain fun here next => arena.markOf here = some next) :
    ∀ other ∈ line, arena.isMarked other = true := by
  induction line with
  | nil => exact nofun
  | cons first rest ih =>
      have onward : (rest ++ [last]).IsChain fun here next => arena.markOf here = some next :=
        chain.of_cons
      intro other within
      rcases List.mem_cons.mp within with rfl | further
      · rw [isMarked_eq]
        cases rest with
        | nil => simp [(List.isChain_cons_cons.mp chain).1]
        | cons next rest => simp [(List.isChain_cons_cons.mp chain).1]
      · exact ih onward other further

section
variable {arena : Arena} {id start : Nat} {used ahead : List Nat}

/-- The highest marked snapshot is the one that the walk has come to. -/
theorem topMarked?_of_chain (line : arena.lineage id = (used ++ start :: ahead).reverse)
    (spent : ∀ other ∈ used, arena.markOf other = none)
    (chain : (start :: ahead).IsChain fun here next => arena.markOf here = some next) :
    arena.topMarked? id = some start := by
  have unmarked : used.reverse.takeWhile arena.isMarked = [] := by
    cases turned : used.reverse with
    | nil => rfl
    | cons lowest rest =>
        have within : lowest ∈ used := List.mem_reverse.mp (turned ▸ List.mem_cons_self)
        rw [List.takeWhile_cons, isMarked_eq, spent lowest within]
        rfl
  unfold topMarked?
  rw [line]
  rcases List.eq_nil_or_concat ahead with rfl | ⟨between, last, rfl⟩
  · simp [unmarked]
  · rw [List.concat_eq_append, ← List.cons_append] at chain
    have marked : ∀ other ∈ (start :: between).reverse, arena.isMarked other = true :=
      fun other within => isMarked_of_chain chain other (List.mem_reverse.mp within)
    rw [List.concat_eq_append, show (used ++ start :: (between ++ [last])).reverse =
      last :: ((start :: between).reverse ++ used.reverse) by simp]
    dsimp only
    rw [List.takeWhile_append_of_pos marked, unmarked, List.append_nil, List.getLast?_reverse]
    rfl

end

/-- Behind the last name there is no further step. -/
theorem OnWay.nextSegment_nil {arena : Arena} {id : Nat} (onWay : arena.OnWay id []) :
    arena.nextSegment id = (none, arena) := by
  obtain ⟨used, start, ahead, line, _, told, spent, chain, last⟩ := onWay
  obtain rfl := List.map_eq_nil_iff.mp told
  have top := topMarked?_of_chain line spent chain
  have here : start = id := lineage_eq_cons (line.trans List.reverse_concat)
  rw [nextSegment_eq, top, here]
  dsimp only
  rw [last]

/-- A step gives the next name, and uses up the mark. -/
theorem OnWay.nextSegment_cons {arena : Arena} {id : Nat} {name : String} {names : List String}
    (onWay : arena.OnWay id (name :: names)) :
    ∃ later, arena.nextSegment id = (some name, later) ∧ later.OnWay id names := by
  obtain ⟨used, start, ahead, line, once, told, spent, chain, last⟩ := onWay
  obtain ⟨child, rest, rfl, named, told⟩ := List.map_eq_cons_iff.mp told
  have top := topMarked?_of_chain line spent chain
  obtain ⟨mark, onward⟩ := List.isChain_cons_cons.mp chain
  have ahead : start ∉ child :: rest := (List.nodup_cons.mp once.of_append_right).1
  have rungs : (arena.setMark start none).rungs = arena.rungs :=
    rungs_of_unmarked (arena.unmarked_setMark start none)
  have alike : (arena.setMark start none).nameOf = arena.nameOf := funext (nameOf_of_rungs rungs)
  refine ⟨arena.setMark start none, ?_, used ++ [start], child, rest, ?_, ?_, ?_, ?_, ?_, ?_⟩
  · rw [nextSegment_eq, top]
    dsimp only
    rw [mark, ← named]
  · rw [lineage_of_rungs rungs, line]
    simp
  · simpa using once
  · rw [alike]
    exact told
  · intro other within
    rw [markOf_setMark_none]
    split
    · rfl
    · next apart =>
      exact spent other ((List.mem_append.mp within).resolve_right (by simpa using apart))
  · refine onward.imp_of_mem_imp fun here next within _ marked => ?_
    have apart : here ≠ start := fun same => ahead (same ▸ within)
    rw [arena.markOf_setMark_other apart, marked]
  · rw [markOf_setMark_none, last, ite_self]

theorem OnWay.segments {arena : Arena} {id limit : Nat} {names : List String}
    (onWay : arena.OnWay id names) (enough : names.length < limit) :
    (arena.segments id limit).1 = names := by
  induction limit generalizing arena names with
  | zero => omega
  | succ limit ih =>
      unfold Arena.segments
      cases names with
      | nil => rw [onWay.nextSegment_nil]
      | cons name names =>
          obtain ⟨later, next, onward⟩ := onWay.nextSegment_cons
          rw [next]
          dsimp only
          rw [ih onward (Nat.lt_of_succ_lt_succ enough)]

theorem Leads.length_le {arena : Arena} {names : List String} {id : Nat}
    (leads : arena.Leads names id) : names.length ≤ id ∧ id < arena.depth := by
  induction leads with
  | root found _ => exact ⟨Nat.zero_le _, (List.getElem?_eq_some_iff.mp found).1⟩
  | child _ found _ further _ ih =>
      refine ⟨?_, (List.getElem?_eq_some_iff.mp found).1⟩
      rw [List.length_append, List.length_singleton]
      omega

/-- The way that is told leads to the directory. -/
theorem Leads.pathString {arena : Arena} {names : List String} {id : Nat}
    (leads : arena.Leads names id) : (arena.pathString id).1 = wayOf names := by
  obtain ⟨short, present⟩ := leads.length_le
  unfold Arena.pathString
  dsimp only
  rw [leads.onWay_markWay.segments (by omega), wayOf]

section
variable {arena arena' : Arena} {id : Nat}

theorem nextSegment_none {later : Arena} (next : arena.nextSegment id = (none, later)) :
    later = arena := by
  unfold nextSegment at next
  split at next
  · exact (congrArg Prod.snd next).symm
  · split at next
    · exact (congrArg Prod.snd next).symm
    · cases next

/-- A step uses up one mark on the line. -/
theorem nextSegment_some {name : String} {later : Arena}
    (next : arena.nextSegment id = (some name, later)) :
    ∃ top ∈ arena.lineage id, arena.isMarked top = true ∧ later = arena.setMark top none := by
  rw [nextSegment_eq] at next
  cases found : arena.topMarked? id with
  | none => simp [found] at next
  | some top =>
      cases mark : arena.markOf top with
      | none => simp [found, mark] at next
      | some child =>
          simp only [found, mark] at next
          exact ⟨top, topMarked?_mem found, by simp [isMarked_eq, mark],
            (congrArg Prod.snd next).symm⟩

/-- The snapshots that are marked, of the one with this number and those above it. -/
def marksAlong (arena : Arena) (id : Nat) : Finset Nat :=
  (arena.lineage id).toFinset.filter fun other => arena.isMarked other = true

/-- A bound for the steps that a walk can still take. -/
def stepsDown (arena : Arena) (id : Nat) : Nat :=
  match (arena.nextSegment id).1 with
  | none => 0
  | some _ => (arena.marksAlong id).card

theorem stepsDown_le (arena : Arena) (id : Nat) :
    arena.stepsDown id ≤ (arena.marksAlong id).card := by
  unfold stepsDown
  split
  · exact Nat.zero_le _
  · exact Nat.le_refl _

theorem stepsDown_of_none {later : Arena} (next : arena.nextSegment id = (none, later)) :
    later.stepsDown id = 0 := by
  obtain rfl := nextSegment_none next
  rw [stepsDown, next]

theorem stepsDown_lt {name : String} {later : Arena}
    (next : arena.nextSegment id = (some name, later)) : later.stepsDown id < arena.stepsDown id := by
  have whole : arena.stepsDown id = (arena.marksAlong id).card := by rw [stepsDown, next]
  obtain ⟨top, within, marked, rfl⟩ := nextSegment_some next
  have line : (arena.setMark top none).lineage id = arena.lineage id :=
    lineage_of_rungs (rungs_of_unmarked (arena.unmarked_setMark top none)) id
  rw [whole]
  refine (stepsDown_le _ id).trans_lt (Finset.card_lt_card (Finset.ssubset_iff_of_subset ?_ |>.mpr ?_))
  · intro other inside
    simp only [marksAlong, line, Finset.mem_filter, isMarked_eq, markOf_setMark_none] at inside ⊢
    by_cases here : other = top <;> simp_all
  · exact ⟨top, by simp [marksAlong, within, marked],
      by simp [marksAlong, isMarked_eq, markOf_setMark_none]⟩

/-- A walk that has just been marked takes no more steps than there are levels. -/
theorem stepsDown_markWay_le (arena : Arena) (id : Nat) :
    (arena.markWay id).stepsDown id ≤ arena.levelsBelowRoot id := by
  have line : (arena.markWay id).lineage id = arena.lineage id :=
    lineage_of_rungs (rungs_of_unmarked (arena.unmarked_markWay id)) id
  have above : (arena.markWay id).marksAlong id ⊆ (arena.lineage id).tail.toFinset := by
    intro other inside
    simp only [marksAlong, line, Finset.mem_filter, List.mem_toFinset, isMarked_eq] at inside
    refine List.mem_toFinset.mpr (Classical.byContradiction fun apart => ?_)
    rw [arena.markOf_markWay_of_not_mem inside.1 apart] at inside
    exact Bool.false_ne_true inside.2
  calc (arena.markWay id).stepsDown id
      ≤ ((arena.markWay id).marksAlong id).card := stepsDown_le _ id
    _ ≤ (arena.lineage id).tail.toFinset.card := Finset.card_le_card above
    _ ≤ (arena.lineage id).tail.length := List.toFinset_card_le _
    _ = arena.levelsBelowRoot id := List.length_tail

/-- How far a walk has come is told by the marks. -/
theorem stepsDown_congr (rungs : arena.rungs = arena'.rungs) (marks : arena.markOf = arena'.markOf) :
    arena.stepsDown id = arena'.stepsDown id := by
  have line := lineage_of_rungs rungs id
  have marked : arena.isMarked = arena'.isMarked := by
    funext other
    rw [isMarked_eq, isMarked_eq, marks]
  have top : arena.topMarked? id = arena'.topMarked? id := by
    rw [topMarked?, topMarked?, line, marked]
  have segment : (arena.nextSegment id).1 = (arena'.nextSegment id).1 := by
    rw [nextSegment_eq, nextSegment_eq, top]
    cases arena'.topMarked? id with
    | none => rfl
    | some top =>
        dsimp only
        rw [marks]
        cases arena'.markOf top with
        | none => rfl
        | some child => exact congrArg some (nameOf_of_rungs rungs child)
  rw [stepsDown, stepsDown, segment, marksAlong, marksAlong, line, marked]

end

end Arena
end SiteIndex.Listing

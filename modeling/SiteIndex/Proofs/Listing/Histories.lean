import SiteIndex.Proofs.Listing.Entries
import SiteIndex.Proofs.Listing.Ways

/-!
Arenas by their history. Whatever has been done to an arena, through numbers of snapshots that are there,
that have been left or that others have taken over, each snapshot in it is a root or hangs under a name on
one before it. So there is a way down to each of them, and once the way is marked a walk goes along it,
whatever marks have been left behind.
-/

namespace SiteIndex.Listing.Arena

/-- What can be done to an arena. The number may be that of any snapshot, or of none. -/
inductive Handled (arena : Arena) : Arena → Prop
  | enter {later : Arena} {id : Nat} (files : FileSystem) (parent : Option Nat) (path : String)
      (accepts : String → Bool) (entered : arena.enter files parent path accepts = .ok (later, id)) :
      Handled arena later
  | leave (id : Nat) : Handled arena (arena.leave id)
  | advance (id : Nat) : Handled arena (arena.advance id).2
  | insert (id : Nat) (entry : Entry) : Handled arena (arena.update id (·.insert entry))
  | resetCursor (id : Nat) : Handled arena (arena.resetCursor id)
  | markWay (id : Nat) : Handled arena (arena.markWay id)
  | clearMarks (id : Nat) : Handled arena (arena.clearMarks id)
  | nextSegment (id : Nat) : Handled arena (arena.nextSegment id).2
  | pathString (id : Nat) : Handled arena (arena.pathString id).2

/-- The arenas that come of an empty one. -/
inductive Arises : Arena → Prop
  | empty : Arises .empty
  | handled {arena later : Arena} (arises : Arises arena) (handled : Handled arena later) :
      Arises later

/-- How a snapshot with this number may hang: on none, or under a name on one with a smaller number. -/
inductive Hangs (id : Nat) : Option Nat × Option String → Prop
  | free : Hangs id (none, none)
  | below {above : Nat} (name : String) (before : above < id) : Hangs id (some above, some name)

/-- All snapshots hang like that. -/
def Founded (arena : Arena) : Prop :=
  ∀ id rung, arena.rungs[id]? = some rung → Hangs id rung

section
variable {arena later : Arena}

theorem length_rungs (arena : Arena) : arena.rungs.length = arena.depth := by
  simp [rungs, depth]

theorem Founded.of_rungs_prefix (founded : arena.Founded) (fewer : later.rungs <+: arena.rungs) :
    later.Founded := by
  intro id rung found
  obtain ⟨rest, whole⟩ := fewer
  have within : id < later.rungs.length := (List.getElem?_eq_some_iff.mp found).1
  exact founded id rung (by rw [← whole, List.getElem?_append_left within, found])

theorem Founded.push (founded : arena.Founded) {rung : Option Nat × Option String}
    (hangs : Hangs arena.depth rung) (longer : later.rungs = arena.rungs ++ [rung]) :
    later.Founded := by
  intro id other found
  rw [longer] at found
  rcases Nat.lt_or_ge id arena.rungs.length with before | behind
  · exact founded id other (by rwa [List.getElem?_append_left before] at found)
  · rw [List.getElem?_append_right behind, List.getElem?_singleton] at found
    split at found
    · next here =>
      cases found
      have last : id = arena.depth := by
        rw [← arena.length_rungs]
        omega
      exact last ▸ hangs
    · cases found

/-- A directory is entered from one that is there, under the name that is selected in it. -/
theorem hangs_of_selectedIn {parent : Option Nat} {entryName : Option String}
    (selected : arena.selectedIn parent = .ok entryName) : Hangs arena.depth (parent, entryName) := by
  cases parent with
  | none =>
      cases selected
      exact .free
  | some above =>
      unfold selectedIn get at selected
      cases found : arena.get? above with
      | none => simp [found] at selected
      | some snapshot =>
          have before : above < arena.depth := (List.getElem?_eq_some_iff.mp found).1
          cases entry : snapshot.selected? with
          | none => simp [found, entry] at selected
          | some entry' =>
              simp only [found, entry, Except.ok.injEq] at selected
              exact selected ▸ .below _ before

theorem rungs_enter {files : FileSystem} {parent : Option Nat} {path : String}
    {accepts : String → Bool} {id : Nat}
    (entered : arena.enter files parent path accepts = .ok (later, id)) :
    ∃ rung, Hangs arena.depth rung ∧ later.rungs = arena.rungs ++ [rung] := by
  unfold enter at entered
  cases selected : arena.selectedIn parent with
  | error cause => simp [selected] at entered
  | ok entryName =>
      have frame (listed : List Entry) :
          ((listed.foldl Snapshot.insert (.empty parent entryName path)).parent,
            (listed.foldl Snapshot.insert (.empty parent entryName path)).entryName) =
              (parent, entryName) := by
        obtain ⟨hangsOn, name, _⟩ :=
          Snapshot.foldl_insert_frame listed (.empty parent entryName path)
        rw [hangsOn, name]
        rfl
      refine ⟨(parent, entryName), hangs_of_selectedIn selected, ?_⟩
      rw [selected] at entered
      dsimp only at entered
      split at entered
      · cases entered
      · cases entered
        simp only [rungs, push, List.map_append, List.map_singleton, frame]

theorem unmarked_clearMarks (arena : Arena) (id : Nat) :
    (arena.clearMarks id).unmarked = arena.unmarked := by
  rw [clearMarks_eq, unmarked_foldl_setMark]

/-- Whatever is done, snapshots go on to hang as they do, but for the last ones, which may be left, and
one that may be entered. -/
theorem Handled.rungs (handled : Handled arena later) :
    later.rungs <+: arena.rungs ∨
      ∃ rung, Hangs arena.depth rung ∧ later.rungs = arena.rungs ++ [rung] := by
  have kept (same : later.rungs = arena.rungs) : later.rungs <+: arena.rungs :=
    same ▸ List.prefix_refl _
  cases handled with
  | enter files parent path accepts entered => exact .inr (rungs_enter entered)
  | leave id =>
      refine .inl ?_
      simp only [Arena.rungs, Arena.leave, List.map_take]
      exact List.take_prefix id _
  | advance id => exact .inl (kept (arena.rungs_advance id))
  | insert id entry =>
      exact .inl (kept (arena.rungs_update id (fun snapshot => (snapshot.insert_frame entry).1)
        fun snapshot => (snapshot.insert_frame entry).2.1))
  | resetCursor id => exact .inl (kept (arena.rungs_update id (fun _ => rfl) fun _ => rfl))
  | markWay id => exact .inl (kept (rungs_of_unmarked (arena.unmarked_markWay id)))
  | clearMarks id => exact .inl (kept (rungs_of_unmarked (arena.unmarked_clearMarks id)))
  | nextSegment id => exact .inl (kept (rungs_of_unmarked (arena.unmarked_nextSegment id)))
  | pathString id => exact .inl (kept (rungs_of_unmarked (arena.unmarked_pathString id)))

theorem Handled.founded (handled : Handled arena later) (founded : arena.Founded) :
    later.Founded := by
  rcases handled.rungs with fewer | ⟨rung, hangs, longer⟩
  · exact founded.of_rungs_prefix fewer
  · exact founded.push hangs longer

theorem Arises.founded (arises : arena.Arises) : arena.Founded := by
  induction arises with
  | empty => exact nofun
  | handled _ handled ih => exact handled.founded ih

/-- There is a way down to each snapshot. -/
theorem Founded.leads (founded : arena.Founded) {id : Nat} (present : id < arena.depth) :
    ∃ names, arena.Leads names id := by
  induction id using Nat.strongRecOn with
  | ind id ih =>
      obtain ⟨snapshot, found⟩ : ∃ snapshot, arena.get? id = some snapshot :=
        ⟨_, List.getElem?_eq_getElem present⟩
      have rung : arena.rungs[id]? = some (snapshot.parent, snapshot.entryName) := by
        rw [getElem?_rungs, found, Option.map_some]
      have hangs := founded id _ rung
      generalize parent : snapshot.parent = above at hangs
      generalize entered : snapshot.entryName = name at hangs
      cases hangs with
      | free => exact ⟨[], .root found parent⟩
      | below name before =>
          obtain ⟨names, leads⟩ := ih _ before (Nat.lt_trans before present)
          exact ⟨names ++ [name], .child leads found parent before entered⟩

end

/-- The later arena differs in marks alone, and in none but those of the snapshot and what lies above it. -/
structure Remarked (id : Nat) (arena later : Arena) : Prop where
  unmarked : later.unmarked = arena.unmarked
  aside : ∀ other ∉ arena.lineage id, later.markOf other = arena.markOf other

namespace Remarked

variable {arena between later : Arena} {id : Nat}

theorem refl (id : Nat) (arena : Arena) : Remarked id arena arena :=
  ⟨rfl, fun _ _ => rfl⟩

theorem trans (first : Remarked id arena between) (second : Remarked id between later) :
    Remarked id arena later where
  unmarked := second.unmarked.trans first.unmarked
  aside other off := by
    have line := lineage_of_rungs (rungs_of_unmarked first.unmarked) id
    exact (second.aside other (line ▸ off)).trans (first.aside other off)

theorem markWay (id : Nat) (arena : Arena) : Remarked id arena (arena.markWay id) where
  unmarked := arena.unmarked_markWay id
  aside other off := by
    change ((arena.clearMarks id).markLine (arena.lineage id)).markOf other = arena.markOf other
    rw [markOf_markLine_other _ fun within => off (List.mem_of_mem_tail within), markOf_clearMarks,
      if_neg off]

theorem nextSegment (id : Nat) (arena : Arena) : Remarked id arena (arena.nextSegment id).2 where
  unmarked := arena.unmarked_nextSegment id
  aside other off := by
    cases next : arena.nextSegment id with
    | mk segment later =>
        cases segment with
        | none => rw [nextSegment_none next]
        | some name =>
            obtain ⟨top, within, _, rfl⟩ := nextSegment_some next
            exact arena.markOf_setMark_other (fun same => off (by rw [same]; exact within)) none

theorem segments (id limit : Nat) (arena : Arena) : Remarked id arena (arena.segments id limit).2 := by
  induction limit generalizing arena with
  | zero => exact .refl id arena
  | succ limit ih =>
      have step := nextSegment id arena
      unfold Arena.segments
      revert step
      rcases arena.nextSegment id with ⟨_ | name, later⟩
      · exact fun step => step
      · exact fun step => step.trans (ih later)

theorem pathString (id : Nat) (arena : Arena) : Remarked id arena (arena.pathString id).2 :=
  (markWay id arena).trans (segments id (arena.depth + 1) _)

end Remarked

/-- Takes so many steps down, and gives their answers. -/
def descend (arena : Arena) (id : Nat) : (steps : Nat) → List (Option String) × Arena
  | 0 => ([], arena)
  | steps + 1 =>
      let (answer, arena) := arena.nextSegment id
      let (answers, arena) := descend arena id steps
      (answer :: answers, arena)

section
variable {arena : Arena} {id : Nat}

theorem descend_succ (arena : Arena) (id steps : Nat) :
    arena.descend id (steps + 1) =
      ((arena.nextSegment id).1 :: ((arena.nextSegment id).2.descend id steps).1,
        ((arena.nextSegment id).2.descend id steps).2) := rfl

theorem Remarked.descend (id steps : Nat) (arena : Arena) :
    Remarked id arena (arena.descend id steps).2 := by
  induction steps generalizing arena with
  | zero => exact .refl id arena
  | succ steps ih => exact (Remarked.nextSegment id arena).trans (ih _)

/-- A walk that can take no step takes none however often it is asked to. -/
theorem descend_of_none (stuck : arena.nextSegment id = (none, arena)) (steps : Nat) :
    (arena.descend id steps).1 = List.replicate steps none := by
  induction steps with
  | zero => rfl
  | succ steps ih => rw [descend_succ, stuck, ih, List.replicate_succ]

/-- A walk on its way gives the names that are ahead of it, and then nothing. -/
theorem OnWay.descend {names : List String} (onWay : arena.OnWay id names) (further : Nat) :
    (arena.descend id (names.length + further)).1 =
      names.map some ++ List.replicate further none := by
  induction names generalizing arena with
  | nil =>
      rw [List.length_nil, Nat.zero_add]
      exact descend_of_none onWay.nextSegment_nil further
  | cons name names ih =>
      obtain ⟨later, next, onward⟩ := onWay.nextSegment_cons
      rw [List.length_cons, Nat.add_right_comm, descend_succ, next, ih onward]
      rfl

theorem get?_none_of_rungs {later : Arena} (rungs : later.rungs = arena.rungs)
    (gone : arena.get? id = none) : later.get? id = none := by
  have rung := getElem?_rungs later id
  rw [rungs, getElem?_rungs, gone, Option.map_none] at rung
  exact Option.map_eq_none_iff.mp rung.symm

/-- These are the names on the way to a snapshot. To one that is not there, no name leads. -/
inductive NamesTo (arena : Arena) (id : Nat) : List String → Prop
  | present {names : List String} (leads : arena.Leads names id) : NamesTo arena id names
  | absent (gone : arena.get? id = none) : NamesTo arena id []

theorem Founded.exists_namesTo (founded : arena.Founded) (id : Nat) :
    ∃ names, arena.NamesTo id names := by
  rcases Nat.lt_or_ge id arena.depth with present | gone
  · obtain ⟨names, leads⟩ := founded.leads present
    exact ⟨names, .present leads⟩
  · exact ⟨[], .absent (List.getElem?_eq_none gone)⟩

section
variable (gone : arena.get? id = none)
include gone

theorem lineage_of_absent : arena.lineage id = [] := by
  unfold lineage lineageWithin
  rw [gone]

theorem markWay_of_absent : arena.markWay id = arena := by
  simp only [markWay, clearMarks, lineage_of_absent gone]
  rfl

theorem nextSegment_of_absent : arena.nextSegment id = (none, arena) := by
  simp only [nextSegment, topMarked?, lineage_of_absent gone]

theorem pathString_of_absent : arena.pathString id = ("", arena) := by
  unfold pathString segments
  rw [markWay_of_absent gone, nextSegment_of_absent gone]
  rfl

end

namespace NamesTo

variable {names : List String} (namesTo : arena.NamesTo id names)
include namesTo

theorem levelsBelowRoot : arena.levelsBelowRoot id = names.length := by
  cases namesTo with
  | present leads => exact leads.levelsBelowRoot
  | absent gone => rw [Arena.levelsBelowRoot, lineage_of_absent gone]; rfl

theorem descend (further : Nat) :
    ((arena.markWay id).descend id (names.length + further)).1 =
      names.map some ++ List.replicate further none := by
  cases namesTo with
  | present leads => exact leads.onWay_markWay.descend further
  | absent gone =>
      rw [List.length_nil, Nat.zero_add, markWay_of_absent gone]
      exact descend_of_none (nextSegment_of_absent gone) further

theorem pathString : (arena.pathString id).1 = wayOf names := by
  cases namesTo with
  | present leads => exact leads.pathString
  | absent gone => rw [pathString_of_absent gone]; rfl

/-- The names are told by how the snapshots hang. -/
theorem of_rungs {later : Arena} (rungs : later.rungs = arena.rungs) : later.NamesTo id names := by
  cases namesTo with
  | present leads => exact .present (leads.of_rungs rungs)
  | absent gone => exact .absent (get?_none_of_rungs rungs gone)

end NamesTo

/-- In every arena that can arise, a walk down the way that has just been marked gives the names on it
from below the root to the directory, and after them nothing, and the string told for the way is made of
the same names, this time and the next. All that changes is marks on the way. -/
theorem Arises.walk_markWay (arises : arena.Arises) (id : Nat) :
    ∃ names, arena.NamesTo id names ∧ arena.levelsBelowRoot id = names.length ∧
      (∀ further, ((arena.markWay id).descend id (arena.levelsBelowRoot id + further)).1 =
        names.map some ++ List.replicate further none) ∧
      (arena.pathString id).1 = wayOf names ∧
      ((arena.pathString id).2.pathString id).1 = (arena.pathString id).1 ∧
      (∀ steps, Remarked id arena ((arena.markWay id).descend id steps).2) ∧
      Remarked id arena (arena.pathString id).2 := by
  obtain ⟨names, namesTo⟩ := arises.founded.exists_namesTo id
  have after := Remarked.pathString id arena
  refine ⟨names, namesTo, namesTo.levelsBelowRoot, fun further => ?_, namesTo.pathString, ?_,
    fun steps => (Remarked.markWay id arena).trans (.descend id steps _), after⟩
  · rw [namesTo.levelsBelowRoot]
    exact namesTo.descend further
  · rw [namesTo.pathString]
    exact (namesTo.of_rungs (rungs_of_unmarked after.unmarked)).pathString

/-- A walk to `a` was marked and left, and `b` has taken over the number that the mark points to. -/
def overtaken : Arena :=
  ⟨[⟨none, none, "r", [⟨"a", 0, true⟩, ⟨"b", 0, true⟩], [], .directory 1, some 1⟩,
    ⟨some 0, some "b", "r/b", [], [], .unset, none⟩]⟩

def twoDirectories : FileSystem :=
  ⟨[], [(["r"], .directory), (["r", "a"], .directory), (["r", "b"], .directory)]⟩

/-- `r` as it is listed before anything is marked. -/
def twoListed (cursor : Cursor) : Snapshot :=
  ⟨none, none, "r", [⟨"a", 0, true⟩, ⟨"b", 0, true⟩], [], cursor, none⟩

theorem arises_overtaken : overtaken.Arises := by
  have enterRoot : empty.enter twoDirectories none "r" (fun _ => true) =
      .ok (⟨[twoListed .unset]⟩, 0) := by decide +kernel
  have enterFirst : (advance ⟨[twoListed .unset]⟩ 0).2.enter twoDirectories (some 0) "r/a"
      (fun _ => true) = .ok (⟨[twoListed (.directory 0), .empty (some 0) (some "a") "r/a"]⟩, 1) := by
    decide +kernel
  have enterSecond : (((markWay ⟨[twoListed (.directory 0), .empty (some 0) (some "a") "r/a"]⟩
      1).leave 1).advance 0).2.enter twoDirectories (some 0) "r/b" (fun _ => true) =
      .ok (overtaken, 1) := by decide +kernel
  have root := Arises.empty.handled (.enter _ _ _ _ enterRoot)
  have first := (root.handled (.advance 0)).handled (.enter _ _ _ _ enterFirst)
  have second := ((first.handled (.markWay 1)).handled (.leave 1)).handled (.advance 0)
  exact second.handled (.enter _ _ _ _ enterSecond)

theorem walk_markWay_overtaken :
    overtaken.Arises ∧ overtaken.markOf 0 = some 1 ∧ overtaken.NamesTo 1 ["b"] ∧
      ((overtaken.markWay 1).descend 1 2).1 = [some "b", none] ∧
      (overtaken.pathString 1).1 = wayOf ["b"] := by
  obtain ⟨names, namesTo, _, walk, told, _⟩ := arises_overtaken.walk_markWay 1
  have answers : ((overtaken.markWay 1).descend 1 2).1 = [some "b", none] := by decide
  have alike : names.map some = ["b"].map some :=
    List.append_cancel_right ((walk 1).symm.trans answers)
  obtain rfl := List.map_injective_iff.mpr (Option.some_injective _) alike
  exact ⟨arises_overtaken, by decide, namesTo, answers, told⟩

end
end SiteIndex.Listing.Arena

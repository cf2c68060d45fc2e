import SiteIndex.Listing.Arena

/-!
The way from the root of a walk down to a snapshot. Marking the way leaves on every ancestor a mark
that points to the next snapshot down; each step then takes the topmost mark that can be reached from
below and gives the name it points to. Only one way is followed at a time.
-/

namespace SiteIndex.Listing.Arena

/-- Stands for a marked child without a name. -/
def unnamedSegment : String := "(unnamed)"

/-- The snapshot and its ancestors, upwards, `steps` of them at the most. -/
def lineageWithin (arena : Arena) : (steps : Nat) → Nat → List Nat
  | steps, id =>
      match arena.get? id with
      | none => []
      | some snapshot =>
          match steps, snapshot.parent with
          | steps + 1, some parent => id :: arena.lineageWithin steps parent
          | _, _ => [id]

/-- The snapshot and its ancestors, upwards. A parent has a smaller number than its child, so there
are no more ancestors than the number says. -/
def lineage (arena : Arena) (id : Nat) : List Nat :=
  arena.lineageWithin id id

def levelsBelowRoot (arena : Arena) (id : Nat) : Nat :=
  (arena.lineage id).length - 1

def setMark (arena : Arena) (id : Nat) (mark : Option Nat) : Arena :=
  arena.update id fun snapshot => { snapshot with mark }

/-- Removes every mark from the snapshot and its ancestors. -/
def clearMarks (arena : Arena) (id : Nat) : Arena :=
  (arena.lineage id).foldl (fun arena id => arena.setMark id none) arena

/-- Marks the way from the root down to the snapshot, and forgets a walk not finished on it. -/
def markWay (arena : Arena) (id : Nat) : Arena :=
  let line := arena.lineage id
  (line.zip line.tail).foldl (fun arena (child, parent) => arena.setMark parent (some child))
    (arena.clearMarks id)

def isMarked (arena : Arena) (id : Nat) : Bool :=
  (arena.get? id).any fun snapshot => snapshot.mark.isSome

/-- The highest snapshot reached from `id` by going up over marked parents. -/
def topMarked? (arena : Arena) (id : Nat) : Option Nat :=
  match arena.lineage id with
  | [] => none
  | id :: ancestors => some ((ancestors.takeWhile arena.isMarked).getLast?.getD id)

/-- Takes the next step down and gives the name of the directory reached; nothing once every mark has
been used. -/
def nextSegment (arena : Arena) (id : Nat) : Option String × Arena :=
  match arena.topMarked? id with
  | none => (none, arena)
  | some top =>
      match (arena.get? top).bind Snapshot.mark with
      | none => (none, arena)
      | some child =>
          (some (((arena.get? child).bind Snapshot.entryName).getD unnamedSegment),
            arena.setMark top none)

/-- The names of the steps still to be taken, `limit` of them at the most. -/
def segments (arena : Arena) (id : Nat) : (limit : Nat) → List String × Arena
  | 0 => ([], arena)
  | limit + 1 =>
      match arena.nextSegment id with
      | (none, arena) => ([], arena)
      | (some name, arena) =>
          let (names, arena) := segments arena id limit
          (name :: names, arena)

/-- The names on the way from the root down to the snapshot, a slash after each. -/
def pathString (arena : Arena) (id : Nat) : String × Arena :=
  let (names, arena) := (arena.markWay id).segments id (arena.depth + 1)
  (String.join (names.map (· ++ "/")), arena)

end SiteIndex.Listing.Arena

import SiteIndex.FileSystem.Access

/-!
How names are followed, one after another. The first of them leaves the walk where it is, leads it up, down
or on to what a link stands for, or brings it to an end; a rule for each of these tells what the name and
what stands under it must be like.
-/

namespace SiteIndex

open SiteIndex.FileSystem

/-- What can be opened for writing: a file, or a device in its place. -/
inductive Node.Writable : Node → Prop
  | file (content : ByteArray) : Writable (.file content)
  | device : Writable .fullDevice

namespace FileSystem

/-- The name is looked up in the directory that the walk has come to. -/
structure LooksUp (purpose : Purpose) (name : String) (rest : List String) : Prop where
  moves : ¬(name = "" ∨ name = ".")
  down : name ≠ ".."
  ends : ¬(purpose = .create ∧ isSlashes rest = true)
  short : ¬maxNameBytes < name.utf8ByteSize

/-- What comes of following names from a directory on. -/
inductive WalksTo (files : FileSystem) (purpose : Purpose)
    (followLink : Location → List String → Except FileError Target) :
    Location → List String → Except FileError Target → Prop
  | done (here : Location) :
      WalksTo files purpose followLink here [] (.ok (.existing here .directory))
  | stay {here : Location} {name : String} {rest : List String} {outcome : Except FileError Target}
      (stays : name = "" ∨ name = ".") (onward : WalksTo files purpose followLink here rest outcome) :
      WalksTo files purpose followLink here (name :: rest) outcome
  | up {here : Location} {name : String} {rest : List String} {outcome : Except FileError Target}
      (up : name = "..") (onward : WalksTo files purpose followLink here.dropLast rest outcome) :
      WalksTo files purpose followLink here (name :: rest) outcome
  | slashes {here : Location} {name : String} {rest : List String}
      (moves : ¬(name = "" ∨ name = ".")) (down : name ≠ "..") (create : purpose = .create)
      (slashes : isSlashes rest = true) :
      WalksTo files purpose followLink here (name :: rest) (.error .isDirectory)
  | long {here : Location} {name : String} {rest : List String}
      (moves : ¬(name = "" ∨ name = ".")) (down : name ≠ "..")
      (ends : ¬(purpose = .create ∧ isSlashes rest = true))
      (long : maxNameBytes < name.utf8ByteSize) :
      WalksTo files purpose followLink here (name :: rest) (.error .nameTooLong)
  | enter {here : Location} {name : String} {rest : List String} {outcome : Except FileError Target}
      (looks : LooksUp purpose name rest) (found : files.node? (here ++ [name]) = some .directory)
      (onward : WalksTo files purpose followLink (here ++ [name]) rest outcome) :
      WalksTo files purpose followLink here (name :: rest) outcome
  | link {here : Location} {name : String} {rest : List String} {outcome : Except FileError Target}
      {text : String} (looks : LooksUp purpose name rest)
      (found : files.node? (here ++ [name]) = some (.link text))
      (followed : followLink (if Path.isAbsolute text then [] else here) (Path.names text ++ rest) =
        outcome) :
      WalksTo files purpose followLink here (name :: rest) outcome
  | missing {here : Location} {name : String} {rest : List String}
      (looks : LooksUp purpose name rest) (absent : files.node? (here ++ [name]) = none)
      (last : rest = []) :
      WalksTo files purpose followLink here (name :: rest) (.ok (.missing (here ++ [name])))
  | lost {here : Location} {name : String} {rest : List String}
      (looks : LooksUp purpose name rest) (absent : files.node? (here ++ [name]) = none)
      (more : rest ≠ []) :
      WalksTo files purpose followLink here (name :: rest) (.error .notFound)
  | reach {here : Location} {name : String} {rest : List String} {node : Node}
      (looks : LooksUp purpose name rest) (found : files.node? (here ++ [name]) = some node)
      (writable : node.Writable) (last : rest = []) :
      WalksTo files purpose followLink here (name :: rest) (.ok (.existing (here ++ [name]) node))
  | blocked {here : Location} {name : String} {rest : List String} {node : Node}
      (looks : LooksUp purpose name rest) (found : files.node? (here ++ [name]) = some node)
      (writable : node.Writable) (more : rest ≠ []) :
      WalksTo files purpose followLink here (name :: rest) (.error .notDirectory)

/-- To look a name up is the same for every purpose, unless a file is to be made and slashes follow. -/
theorem LooksUp.onward {purpose purpose' : Purpose} {name : String} {rest rest' : List String}
    (looks : LooksUp purpose name rest) (ends : ¬(purpose' = .create ∧ isSlashes rest' = true)) :
    LooksUp purpose' name rest' :=
  ⟨looks.moves, looks.down, ends, looks.short⟩

theorem LooksUp.lookUp {purpose : Purpose} {name : String} {rest : List String}
    (looks : LooksUp purpose name rest) (rest' : List String) : LooksUp .lookUp name rest' :=
  looks.onward fun both => nomatch both.1

section
variable {files : FileSystem} {purpose : Purpose}
  {followLink : Location → List String → Except FileError Target} {here : Location}
  {names : List String} {outcome : Except FileError Target}

/-- What stands under a name that is looked up decides on the rest of the walk. -/
theorem LooksUp.walkNames_eq {name : String} {rest : List String} (looks : LooksUp purpose name rest) :
    files.walkNames purpose followLink here (name :: rest) =
      match files.node? (here ++ [name]) with
      | none => if rest.isEmpty then .ok (.missing (here ++ [name])) else .error .notFound
      | some .directory => files.walkNames purpose followLink (here ++ [name]) rest
      | some (.link text) =>
          followLink (if Path.isAbsolute text then [] else here) (Path.names text ++ rest)
      | some node =>
          if rest.isEmpty then .ok (.existing (here ++ [name]) node) else .error .notDirectory := by
  rw [walkNames, if_neg looks.moves, if_neg looks.down, if_neg looks.ends]
  exact if_neg looks.short

theorem WalksTo.eq (walks : WalksTo files purpose followLink here names outcome) :
    files.walkNames purpose followLink here names = outcome := by
  induction walks with
  | done => rfl
  | stay stays _ ih => rw [walkNames, if_pos stays, ih]
  | up up _ ih => rw [up, walkNames, if_neg (by decide), if_pos rfl, ih]
  | slashes moves down create slashes =>
      rw [walkNames, if_neg moves, if_neg down, if_pos ⟨create, slashes⟩]
  | long moves down ends long => rw [walkNames, if_neg moves, if_neg down, if_neg ends, if_pos long]
  | enter looks found _ ih =>
      rw [looks.walkNames_eq, found]
      exact ih
  | link looks found followed =>
      rw [looks.walkNames_eq, found]
      exact followed
  | missing looks absent last =>
      rw [looks.walkNames_eq, absent]
      exact if_pos (List.isEmpty_iff.mpr last)
  | lost looks absent more =>
      rw [looks.walkNames_eq, absent]
      exact if_neg (mt List.isEmpty_iff.mp more)
  | reach looks found writable last =>
      rw [looks.walkNames_eq, found]
      cases writable <;> exact if_pos (List.isEmpty_iff.mpr last)
  | blocked looks found writable more =>
      rw [looks.walkNames_eq, found]
      cases writable <;> exact if_neg (mt List.isEmpty_iff.mp more)

theorem walksTo_walkNames (here : Location) (names : List String) :
    WalksTo files purpose followLink here names (files.walkNames purpose followLink here names) := by
  induction names generalizing here with
  | nil => exact .done here
  | cons name rest ih =>
      by_cases stays : name = "" ∨ name = "."
      · rw [walkNames, if_pos stays]
        exact .stay stays (ih here)
      by_cases up : name = ".."
      · rw [walkNames, if_neg stays, if_pos up]
        exact .up up (ih _)
      by_cases ends : purpose = .create ∧ isSlashes rest = true
      · rw [walkNames, if_neg stays, if_neg up, if_pos ends]
        exact .slashes stays up ends.1 ends.2
      by_cases long : maxNameBytes < name.utf8ByteSize
      · rw [walkNames, if_neg stays, if_neg up, if_neg ends, if_pos long]
        exact .long stays up ends long
      have looks : LooksUp purpose name rest := ⟨stays, up, ends, long⟩
      rw [looks.walkNames_eq]
      cases found : files.node? (here ++ [name]) with
      | none =>
          dsimp only
          split
          · next last => exact .missing looks found (List.isEmpty_iff.mp last)
          · next more => exact .lost looks found (mt List.isEmpty_iff.mpr more)
      | some node =>
          have stands (writable : node.Writable) :
              WalksTo files purpose followLink here (name :: rest)
                (if rest.isEmpty then .ok (.existing (here ++ [name]) node)
                  else .error .notDirectory) := by
            split
            · next last => exact .reach looks found writable (List.isEmpty_iff.mp last)
            · next more => exact .blocked looks found writable (mt List.isEmpty_iff.mpr more)
          cases node with
          | directory => exact .enter looks found (ih _)
          | link text => exact .link looks found rfl
          | file content => exact stands (.file content)
          | fullDevice => exact stands .device

/-- The rules tell what comes of a walk. -/
theorem walksTo_iff :
    WalksTo files purpose followLink here names outcome ↔
      files.walkNames purpose followLink here names = outcome :=
  ⟨WalksTo.eq, fun walked => walked ▸ walksTo_walkNames here names⟩

end
end FileSystem
end SiteIndex

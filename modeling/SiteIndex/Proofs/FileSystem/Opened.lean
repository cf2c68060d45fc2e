import SiteIndex.Proofs.FileSystem.Reworked

/-!
Files that are opened by a path, whatever links are on it. What is opened lies where the path leads to,
and the path goes on to lead there while files are made and written. Two paths may lead to the same
file.
-/

namespace SiteIndex

open SiteIndex.FileSystem

namespace Path

theorem unsplit_splitBy {separator : Char} {text : List Char} :
    ∀ piece ∈ splitBy separator text, separator ∉ piece := by
  induction text with
  | nil => simp [splitBy]
  | cons c rest ih =>
      unfold splitBy
      split
      · exact List.forall_mem_cons.mpr ⟨List.not_mem_nil, ih⟩
      · next other =>
        split
        · next none => exact absurd none (splitBy_ne_nil separator rest)
        · next piece pieces split =>
          rw [split] at ih
          obtain ⟨first, others⟩ := List.forall_mem_cons.mp ih
          refine List.forall_mem_cons.mpr ⟨?_, others⟩
          rw [List.mem_cons, not_or]
          exact ⟨Ne.symm other, first⟩

/-- No name of a path has a slash in it. -/
theorem unsplit_names {path : String} : ∀ name ∈ names path, '/' ∉ name.toList := by
  intro name within
  obtain ⟨piece, split, rfl⟩ := List.mem_map.mp within
  rw [String.toList_ofList]
  exact unsplit_splitBy piece split

end Path

namespace FileSystem

/-- What a path can come to. If nothing is there, a file can be made in a directory, under a name of its
own. -/
inductive Reaches (files : FileSystem) : Target → Prop
  | directory (location : Location) : Reaches files (.existing location .directory)
  | existing {location : Location} {node : Node} (stands : files.node? location = some node)
      (writable : node.Writable) : Reaches files (.existing location node)
  | missing {directory : Location} {name : String} (named : IsEntryName name)
      (absent : files.node? (directory ++ [name]) = none) :
      Reaches files (.missing (directory ++ [name]))

/-- What a path comes to is at this location, and a file can be opened or made there. -/
inductive Target.IsAt (location : Location) : Target → Prop
  | existing {node : Node} (writable : node.Writable) : IsAt location (.existing location node)
  | missing : IsAt location (.missing location)

section
variable {files later : FileSystem} {purpose : Purpose} {location : Location} {node : Node}
  {path : String} {target : Target}

theorem walkNames_reaches
    {followLink : Location → List String → Except FileError Target}
    (onward : ∀ here names target, (∀ name ∈ names, '/' ∉ name.toList) →
      followLink here names = .ok target → files.Reaches target)
    {here : Location} {names : List String} (unsplit : ∀ name ∈ names, '/' ∉ name.toList)
    (walked : files.walkNames purpose followLink here names = .ok target) : files.Reaches target := by
  rw [← walksTo_iff] at walked
  induction names generalizing here with
  | nil =>
      cases walked
      exact .directory here
  | cons name rest ih =>
      obtain ⟨first, others⟩ := List.forall_mem_cons.mp unsplit
      cases walked with
      | stay _ further | up _ further | enter _ _ further => exact ih others further
      | link _ _ followed =>
          refine onward _ _ _ (fun name within => ?_) followed
          rcases List.mem_append.mp within with within | within
          · exact Path.unsplit_names name within
          · exact others name within
      | missing looks absent _ =>
          obtain ⟨moves, down, _, _⟩ := looks
          exact .missing
            ⟨⟨fun empty => moves (.inl empty), first⟩, fun here => moves (.inr here), down⟩ absent
      | reach _ found writable _ => exact .existing found writable

theorem walk_reaches {links : Nat} {here : Location} {names : List String}
    (unsplit : ∀ name ∈ names, '/' ∉ name.toList)
    (walked : files.walk purpose links here names = .ok target) : files.Reaches target := by
  induction links generalizing here names target with
  | zero => exact walkNames_reaches (fun _ _ _ _ failed => by cases failed) unsplit walked
  | succ links ih => exact walkNames_reaches (fun _ _ _ => ih) unsplit walked

theorem resolve_reaches (resolved : files.resolve purpose path = .ok target) :
    files.Reaches target :=
  walk_reaches Path.unsplit_names (walk_of_resolve resolved).2.2.2

/-- A path to a file passes through directories and links only. Where these are, and the file is, it
leads there. -/
theorem walkNames_onto (extended : files.Extends later) (stands : later.node? location = some node)
    (writable : node.Writable)
    {followLink followLink' : Location → List String → Except FileError Target}
    (onward : ∀ here names target, target.IsAt location → followLink here names = .ok target →
      followLink' here names = .ok (.existing location node))
    {here : Location} {names : List String} (isAt : target.IsAt location)
    (walked : files.walkNames purpose followLink here names = .ok target) :
    later.walkNames .lookUp followLink' here names = .ok (.existing location node) := by
  rw [← walksTo_iff] at walked ⊢
  induction names generalizing here with
  | nil =>
      cases walked
      cases isAt with
      | existing writable => cases writable
  | cons name rest ih =>
      cases walked with
      | stay stays further => exact .stay stays (ih further)
      | up up further => exact .up up (ih further)
      | enter looks found further => exact .enter (looks.lookUp _) (extended.2.1 _ found) (ih further)
      | link looks found followed =>
          exact .link (looks.lookUp _) (extended.2.2 _ _ found) (onward _ _ _ isAt followed)
      | missing looks _ last | reach looks _ _ last =>
          cases isAt
          exact .reach (looks.lookUp _) stands writable last

theorem walk_onto (extended : files.Extends later) (stands : later.node? location = some node)
    (writable : node.Writable) (isAt : target.IsAt location) {links : Nat} {here : Location}
    {names : List String} (walked : files.walk purpose links here names = .ok target) :
    later.walk .lookUp links here names = .ok (.existing location node) := by
  induction links generalizing here names target with
  | zero =>
      exact walkNames_onto extended stands writable (fun _ _ _ _ failed => by cases failed) isAt walked
  | succ links ih =>
      exact walkNames_onto extended stands writable (fun _ _ _ isAt => ih isAt) isAt walked

theorem find_onto (extended : files.Extends later) (stands : later.node? location = some node)
    (writable : node.Writable) (isAt : target.IsAt location)
    (resolved : files.resolve purpose path = .ok target) : later.find path = .ok (location, node) := by
  obtain ⟨whole, nonempty, short, walked⟩ := walk_of_resolve resolved
  refine find_of_walk whole nonempty short ?_
  rw [extended.1]
  exact walk_onto extended stands writable isAt walked

end

/-- The path leads to a file at this location, or to a device. -/
def Opens (files : FileSystem) (path : String) (location : Location) : Prop :=
  ∃ node, files.find path = .ok (location, node) ∧ node.Writable

/-- Files that have been made and written wherever it may be. -/
def Grown (files later : FileSystem) : Prop :=
  ∀ place, Reworked place (fun _ => True) (fun _ => False) files later

section
variable {files files' files'' : FileSystem} {location : Location} {node : Node} {path : String}

namespace Grown

theorem refl (files : FileSystem) : files.Grown files :=
  fun place => .refl place _ _ files

theorem trans (early : files.Grown files') (late : files'.Grown files'') : files.Grown files'' :=
  fun place => (early place).trans (late place)

theorem extended (grown : files.Grown files') : files.Extends files' :=
  (grown []).extended

theorem narrowed (grown : files.Grown files') : files'.Extends files :=
  (grown []).narrowed

theorem writable (grown : files.Grown files') (stands : files.node? location = some node)
    (writable : node.Writable) : ∃ node, files'.node? location = some node ∧ node.Writable := by
  have turned := (grown []).turned location
  rw [stands] at turned
  generalize same : files'.node? location = later at turned ⊢
  cases turned with
  | kept => exact ⟨node, rfl, writable⟩
  | filled old new => exact ⟨_, rfl, .file new⟩

/-- No device has been made. -/
theorem device (grown : files.Grown files') (device : files'.node? location = some .fullDevice) :
    files.node? location = some .fullDevice := by
  have turned := (grown []).turned location
  rw [device] at turned
  generalize files.node? location = earlier at turned
  cases turned
  rfl

/-- What is in the files is of no account for where anything stands. -/
theorem of_alike {hidden : Location → Prop} (alike : Alike hidden files files') :
    files.Grown files' := by
  refine fun place => ⟨?_, fun tree => tree.of_outline alike.outline, fun other => ?_⟩
  · exact (congrArg workingDirectory alike.outline).symm
  · have same := alike.node?_outline other
    cases stands : files.node? other with
    | none =>
        rw [stands] at same
        rw [Option.map_eq_none_iff.mp same.symm]
        exact .kept _
    | some node =>
        rw [stands] at same
        obtain ⟨node', stands', same⟩ := Option.map_eq_some_iff.mp same.symm
        rw [stands']
        cases node <;> cases node' <;> cases same
        · exact .kept _
        · exact .filled _ _ (.inl trivial)
        · exact .kept _
        · exact .kept _

end Grown

theorem Opens.stands (opens : files.Opens path location) :
    ∃ node, files.node? location = some node ∧ node.Writable := by
  obtain ⟨node, found, writable⟩ := opens
  cases resolve_reaches (resolve_of_find found) with
  | directory => cases writable
  | existing stands writable => exact ⟨node, stands, writable⟩

theorem Opens.find (opens : files.Opens path location) (stands : files.node? location = some node) :
    files.find path = .ok (location, node) := by
  obtain ⟨node', found, writable⟩ := opens
  cases resolve_reaches (resolve_of_find found) with
  | directory => cases writable
  | existing stands' =>
      cases stands.symm.trans stands'
      exact found

theorem Opens.grown (opens : files.Opens path location) (grown : files.Grown files') :
    files'.Opens path location := by
  obtain ⟨node, stands, writable⟩ := opens.stands
  obtain ⟨node', stands', writable'⟩ := grown.writable stands writable
  exact ⟨node', find_onto grown.extended stands' writable' (.existing writable)
    (resolve_of_find (opens.find stands)), writable'⟩

/-- What comes of creating a file: it is empty, unless a device stands there, and all else stays. -/
structure Creates (path : String) (location : Location) (files files' : FileSystem) : Prop where
  opens : files'.Opens path location
  grown : files.Grown files'
  others : ∀ other, other ≠ location → files'.node? other = files.node? other
  emptied : files'.node? location = some (.file .empty) ∨
    files' = files ∧ files.node? location = some .fullDevice

/-- A device is left as it is. -/
theorem Creates.device (creates : Creates path location files files')
    (device : files'.node? location = some .fullDevice) : files' = files := by
  rcases creates.emptied with emptied | ⟨same, _⟩
  · cases emptied.symm.trans device
  · exact same

theorem creates_of_create {file : OpenFile} (success : files.create path = .ok (files', file)) :
    file = ⟨file.location, 0⟩ ∧ Creates path file.location files files' := by
  cases resolved : files.resolve .create path with
  | error cause =>
      simp only [create, resolved] at success
      cases success
  | ok target =>
      simp only [create, resolved] at success
      cases resolve_reaches resolved with
      | directory => cases success
      | @existing location node stands writable =>
          cases writable with
          | file content =>
              cases success
              have rewritten := rewritten_put stands .empty
              have grown : files.Grown (files.put location (.file .empty)) := .of_alike rewritten.alike
              refine ⟨rfl, ⟨_, find_onto grown.extended rewritten.holds (.file _)
                (.existing (.file content)) resolved, .file _⟩, grown, fun other apart => ?_,
                .inl rewritten.holds⟩
              exact (rewritten.alike.shown other apart).symm
          | device =>
              cases success
              exact ⟨rfl, ⟨_, find_onto (.refl files) stands .device (.existing .device) resolved,
                .device⟩, .refl files, fun _ _ => rfl, .inr ⟨rfl, stands⟩⟩
      | @missing directory name named absent =>
          cases success
          have inside : directory ++ [name] ≠ [] := by simp
          have grown : files.Grown (files.put (directory ++ [name]) (.file .empty)) := by
            refine fun place => ⟨rfl, fun tree => tree.put directory named _, fun other => ?_⟩
            rw [node?_put _ _ _ _ inside]
            by_cases here : other = directory ++ [name]
            · rw [if_pos here, here, absent]
              exact .made _ trivial
            · rw [if_neg here]
              exact .kept _
          have holds : (files.put (directory ++ [name]) (.file .empty)).node? (directory ++ [name]) =
              some (.file .empty) := by
            rw [node?_put _ _ _ _ inside, if_pos rfl]
          exact ⟨rfl, ⟨_, find_onto grown.extended holds (.file _) .missing resolved, .file _⟩, grown,
            fun other apart => by rw [node?_put _ _ _ _ inside, if_neg apart], .inl holds⟩

end

end FileSystem
end SiteIndex

import SiteIndex.Proofs.FileSystem.Alike
import SiteIndex.Proofs.FileSystem.Joining

/-!
Trees of nothing but directories and files, in which a joined path leads to the entry that it names,
and what looking something up and creating a file come to in them.
-/

namespace SiteIndex.FileSystem

/-- What stands at or below `root` are directories and files, each under a name of its own. -/
structure IsTree (files : FileSystem) (root : Location) : Prop where
  distinct : (files.nodes.map Prod.fst).Nodup
  named : ∀ location name, root <+: location → files.node? (location ++ [name]) ≠ none →
    IsEntryName name
  plain : ∀ location node, root <+: location → files.node? location = some node →
    node = .directory ∨ ∃ content, node = .file content

section
variable {files files' : FileSystem} {root : Location}

theorem node?_isSome_outline (files : FileSystem) (location : Location) :
    files.outline.node? location = none ↔ files.node? location = none := by
  simp [node?_outline]

theorem nodes_outline (files : FileSystem) :
    files.outline.nodes.map Prod.fst = files.nodes.map Prod.fst := by
  simp [outline, Function.comp_def]

theorem IsTree.of_outline (tree : files.IsTree root) (same : files.outline = files'.outline) :
    files'.IsTree root where
  distinct := by
    rw [← nodes_outline, ← same, nodes_outline]
    exact tree.distinct
  named location name below present := by
    refine tree.named location name below fun absent => present ?_
    rwa [← node?_isSome_outline, ← same, node?_isSome_outline]
  plain location node below found := by
    have alike : (files'.node? location).map Node.outline =
        (files.node? location).map Node.outline := by
      rw [← node?_outline, ← node?_outline, same]
    rw [found] at alike
    cases seen : files.node? location with
    | none => simp [seen] at alike
    | some node' =>
        have outlines : node.outline = node'.outline := by simpa [seen] using alike
        rcases tree.plain location node' below seen with rfl | ⟨content, rfl⟩
        · exact .inl ((isDirectory_outline node).mp outlines)
        · cases node with
          | file content => exact .inr ⟨content, rfl⟩
          | _ => simp [Node.outline] at outlines

/-- What an entry has been put to. -/
theorem node?_putEntry (files : FileSystem) (directory : Location) (name : String) (node : Node) :
    (files.put (directory ++ [name]) node).node? (directory ++ [name]) = some node := by
  rw [node?_put _ _ _ _ (by simp), if_pos rfl]

theorem nodes_put (files : FileSystem) (location : Location) (node : Node) :
    (files.put location node).nodes.map Prod.fst =
      if location ∈ files.nodes.map Prod.fst then files.nodes.map Prod.fst
      else files.nodes.map Prod.fst ++ [location] := by
  simp only [put]
  induction files.nodes with
  | nil => simp [putNode]
  | cons head rest ih =>
      obtain ⟨other, old⟩ := head
      by_cases here : location = other
      · simp [putNode, here]
      · simp only [putNode, if_neg here, List.map_cons, ih]
        simp only [List.mem_cons, here, false_or]
        by_cases within : location ∈ rest.map Prod.fst
        · rw [if_pos within, if_pos within]
        · rw [if_neg within, if_neg within]
          rfl

theorem IsTree.put (tree : files.IsTree root) (directory : Location) {name : String}
    (entryName : IsEntryName name) (content : ByteArray) :
    (files.put (directory ++ [name]) (.file content)).IsTree root where
  distinct := by
    rw [nodes_put]
    split
    · exact tree.distinct
    · next absent =>
      refine List.nodup_append.mpr ⟨tree.distinct, by simp, fun location within => ?_⟩
      simpa using fun same : location = _ => absent (by rwa [← same])
  named location other under present := by
    rw [node?_put _ _ _ _ (by simp)] at present
    split at present
    · next same =>
      cases (List.append_inj' same rfl).2
      exact entryName
    · exact tree.named location other under present
  plain location node under found := by
    rw [node?_put _ _ _ _ (by simp)] at found
    split at found
    · exact .inr ⟨content, (Option.some.inj found).symm⟩
    · exact tree.plain location node under found

/-- A file that takes no directory's place hides none. -/
theorem IsTree.extends_put (tree : files.IsTree root) {directory : Location} {name : String}
    (below : root <+: directory) (vacant : files.node? (directory ++ [name]) ≠ some .directory)
    (content : ByteArray) : files.Extends (files.put (directory ++ [name]) (.file content)) := by
  refine ⟨rfl, fun location stands => ?_, fun location target link => ?_⟩
  · rw [node?_put _ _ _ _ (by simp), if_neg]
    · exact stands
    · rintro rfl
      exact vacant stands
  · rw [node?_put _ _ _ _ (by simp), if_neg]
    · exact link
    · rintro rfl
      rcases tree.plain _ _ (List.prefix_append_of_prefix below) link with plain | ⟨_, plain⟩ <;>
        cases plain

theorem insertName_perm (name : String) (names : List String) :
    (insertName name names).Perm (name :: names) := by
  induction names with
  | nil => exact .refl _
  | cons other rest ih =>
      simp only [insertName]
      split
      · exact .refl _
      · exact (ih.cons other).trans (.swap name other rest)

theorem childNames_perm (files : FileSystem) (location : Location) :
    (files.childNames location).Perm
      ((files.nodes.map Prod.fst).filterMap fun other =>
        if other.dropLast = location then other.getLast? else none) := by
  have sorted (names : List String) : (names.foldr insertName []).Perm names := by
    induction names with
    | nil => exact .refl _
    | cons name rest ih => exact (insertName_perm name _).trans (ih.cons name)
  simp only [childNames, List.filterMap_map]
  exact sorted _

theorem eq_snoc_of_entry {other location : Location} {name : String}
    (entry : (if other.dropLast = location then other.getLast? else none) = some name) :
    other = location ++ [name] := by
  split at entry
  · next parent =>
    obtain ⟨before, rfl⟩ := List.getLast?_eq_some_iff.mp entry
    rw [← parent, List.dropLast_concat]
  · cases entry

theorem node?_of_mem_childNames {location : Location} {name : String}
    (listed : name ∈ files.childNames location) : files.node? (location ++ [name]) ≠ none := by
  have within := (childNames_perm files location).mem_iff.mp listed
  obtain ⟨other, key, entry⟩ := List.mem_filterMap.mp within
  rw [← eq_snoc_of_entry entry]
  have inside : other ≠ [] := by
    rintro rfl
    simp at entry
  simp only [node?, if_neg inside, ne_eq, List.lookup_eq_none_iff]
  obtain ⟨⟨_, node⟩, member, rfl⟩ := List.mem_map.mp key
  intro absent
  simpa using absent _ member

theorem IsTree.nodup_childNames (tree : files.IsTree root) (location : Location) :
    (files.childNames location).Nodup := by
  refine (childNames_perm files location).nodup_iff.mpr
    (List.Pairwise.filterMap _ (fun first second differ name entry name' entry' same => ?_)
      tree.distinct)
  subst same
  exact differ ((eq_snoc_of_entry entry).trans (eq_snoc_of_entry entry').symm)

theorem path_ne_empty {path : String} {location : Location} {node : Node}
    (found : files.find path = .ok (location, node)) : path ≠ "" :=
  (walk_of_resolve (resolve_of_find found)).2.1

instance (name : String) : Decidable (IsEntryName name) :=
  decidable_of_iff ((name ≠ "" ∧ '/' ∉ name.toList) ∧ name ≠ "." ∧ name ≠ "..")
    ⟨fun ⟨⟨nonempty, unsplit⟩, notHere, notParent⟩ => ⟨⟨nonempty, unsplit⟩, notHere, notParent⟩,
      fun named => ⟨⟨named.nonempty, named.unsplit⟩, named.notHere, named.notParent⟩⟩

theorem mem_nodes_of_node? {location : Location} {node : Node} (inside : location ≠ [])
    (found : files.node? location = some node) : (location, node) ∈ files.nodes := by
  rw [node?, if_neg inside, List.lookup_eq_some_iff] at found
  obtain ⟨before, behind, split, _⟩ := found
  rw [split]
  exact List.mem_append_right _ (List.mem_cons_self ..)

theorem mem_childNames_iff {location : Location} {name : String} :
    name ∈ files.childNames location ↔ files.node? (location ++ [name]) ≠ none := by
  refine ⟨node?_of_mem_childNames, fun present => ?_⟩
  obtain ⟨node, found⟩ := Option.ne_none_iff_exists'.mp present
  have key := List.mem_map_of_mem (f := Prod.fst) (mem_nodes_of_node? (by simp) found)
  exact (childNames_perm files location).mem_iff.mpr
    (List.mem_filterMap.mpr ⟨_, key, by simp⟩)

theorem insertName_sorted (name : String) {names : List String} (sorted : names.Pairwise (· ≤ ·)) :
    (insertName name names).Pairwise (· ≤ ·) := by
  induction names with
  | nil => exact List.pairwise_singleton ..
  | cons other rest ih =>
      obtain ⟨first, others⟩ := List.pairwise_cons.mp sorted
      unfold insertName
      split
      · next before =>
        refine List.pairwise_cons.mpr ⟨fun further within => ?_, sorted⟩
        rcases List.mem_cons.mp within with rfl | within
        · exact before
        · exact String.le_trans before (first further within)
      · next behind =>
        refine List.pairwise_cons.mpr ⟨fun further within => ?_, ih others⟩
        rcases List.mem_cons.mp ((insertName_perm name rest).mem_iff.mp within) with rfl | within
        · exact (String.le_total _ _).resolve_left behind
        · exact first further within

theorem childNames_sorted (files : FileSystem) (location : Location) :
    (files.childNames location).Pairwise (· ≤ ·) := by
  unfold childNames
  induction (files.nodes.filterMap fun entry =>
      if entry.1.dropLast = location then entry.1.getLast? else none) with
  | nil => exact .nil
  | cons name rest ih => exact insertName_sorted name ih

/-- Whether files are a tree can be checked one by one. -/
theorem IsTree.of_nodes (distinct : (files.nodes.map Prod.fst).Nodup)
    (named : ∀ entry ∈ files.nodes, ∀ name ∈ entry.1, IsEntryName name)
    (plain : ∀ entry ∈ files.nodes,
      match entry.2 with
      | .directory | .file _ => True
      | _ => False) (root : Location) : files.IsTree root where
  distinct := distinct
  named location name _ present := by
    obtain ⟨node, found⟩ := Option.ne_none_iff_exists'.mp present
    exact named _ (mem_nodes_of_node? (by simp) found) name (by simp)
  plain location node _ found := by
    by_cases top : location = []
    · subst top
      exact .inl (Option.some.inj found).symm
    · have kind := plain _ (mem_nodes_of_node? top found)
      cases node with
      | directory => exact .inl rfl
      | file content => exact .inr ⟨content, rfl⟩
      | link target => exact kind.elim
      | fullDevice => exact kind.elim

/-- At `location` is a file with this text in it. -/
def HoldsText (files : FileSystem) (location : Location) (text : String) : Prop :=
  ∃ content, files.node? location = some (.file content) ∧ String.fromUTF8? content = some text

theorem holdsText_of_readText {path text : String} (read : files.readText path = .ok text) :
    ∃ location node, files.find path = .ok (location, node) ∧ files.HoldsText location text := by
  simp only [readText, FileSystem.read] at read
  cases found : files.find path with
  | error cause =>
      rw [found] at read
      cases read
  | ok target =>
      obtain ⟨location, node⟩ := target
      rw [found] at read
      change (files.content location >>= _) = _ at read
      simp only [content] at read
      split at read
      · next content file =>
        simp only [bind, Except.bind] at read
        cases whole : String.fromUTF8? content with
        | some text =>
          rw [whole] at read
          cases read
          exact ⟨location, node, rfl, content, file, whole⟩
        | none =>
          rw [whole] at read
          cases read
      all_goals cases read

section
variable {base : String} {directory : Location}

theorem IsTree.resolve_entry (tree : files.IsTree root)
    (found : files.find base = .ok (directory, .directory)) (below : root <+: directory)
    {purpose : Purpose} {name : String} (named : IsEntryName name) {target : Target}
    (resolved : files.resolve purpose (Path.join base name) = .ok target) :
    Stands files (directory ++ [name]) target := by
  obtain ⟨there, found', links, walked⟩ :=
    resolve_join (path_ne_empty found) named.toIsName resolved
  rw [found] at found'
  cases found'
  refine walk_entry files purpose named (fun text link => ?_) walked
  rcases tree.plain _ _ (List.prefix_append_of_prefix below) link with plain | ⟨_, plain⟩ <;>
    cases plain

theorem IsTree.find_entry (tree : files.IsTree root)
    (found : files.find base = .ok (directory, .directory)) (below : root <+: directory)
    {name : String} (named : IsEntryName name) {location : Location} {node : Node}
    (entry : files.find (Path.join base name) = .ok (location, node)) :
    location = directory ++ [name] ∧ files.node? location = some node := by
  cases tree.resolve_entry found below named (resolve_of_find entry) with
  | existing node present => exact ⟨rfl, present⟩

/-- What a joined path can be read from is what the directory has under the name. -/
theorem IsTree.holdsText_of_readText (tree : files.IsTree root)
    (found : files.find base = .ok (directory, .directory)) (below : root <+: directory) {name text : String} (named : IsEntryName name)
    (read : files.readText (Path.join base name) = .ok text) :
    files.HoldsText (directory ++ [name]) text := by
  obtain ⟨location, node, entry, text⟩ := FileSystem.holdsText_of_readText read
  obtain ⟨rfl, _⟩ := tree.find_entry found below named entry
  exact text

theorem IsTree.create_entry (tree : files.IsTree root)
    (found : files.find base = .ok (directory, .directory)) (below : root <+: directory)
    {name : String} (named : IsEntryName name) {created : FileSystem × OpenFile}
    (success : files.create (Path.join base name) = .ok created) :
    created = (files.put (directory ++ [name]) (.file .empty), ⟨directory ++ [name], 0⟩) ∧
      files.node? (directory ++ [name]) ≠ some .directory := by
  cases resolved : files.resolve .create (Path.join base name) with
  | error cause =>
      simp only [create, resolved] at success
      cases success
  | ok target =>
      simp only [create, resolved] at success
      cases tree.resolve_entry found below named resolved with
      | missing absent =>
          cases success
          exact ⟨rfl, by simp [absent]⟩
      | existing node present =>
          rcases tree.plain _ _ (List.prefix_append_of_prefix below) present with
            rfl | ⟨content, rfl⟩
          · cases success
          · cases success
            exact ⟨rfl, by simp [present]⟩

end

theorem eq_of_outline_directory {target : Target} {location : Location}
    (same : target.outline = (Target.existing location .directory).outline) :
    target = .existing location .directory := by
  cases target with
  | missing _ => simp [Target.outline] at same
  | existing location' node =>
      simp only [Target.outline, Target.existing.injEq] at same
      rw [same.1, (isDirectory_outline node).mp same.2]

section
variable {hidden : Location → Prop} (alike : Alike hidden files files')
include alike

/-- What is in the files plays no part in which directories and links there are. -/
theorem Alike.extends : files.Extends files' := by
  refine ⟨(congrArg FileSystem.workingDirectory alike.outline).symm,
    fun location directory => alike.isDirectory directory, fun location target link => ?_⟩
  have same := alike.node?_outline location
  rw [link] at same
  cases found : files'.node? location with
  | none => simp [found] at same
  | some node => cases node <;> simp [found, Node.outline] at same ⊢; exact same.symm

theorem Alike.resolve_error {purpose : Purpose} {path : String} {cause : FileError}
    (failed : files.resolve purpose path = .error cause) :
    files'.resolve purpose path = .error cause := by
  have same := alike.resolve purpose path
  rw [failed] at same
  cases resolved : files'.resolve purpose path with
  | ok _ => simp [resolved, Except.map] at same
  | error _ => simpa [resolved, Except.map] using same.symm

theorem Alike.resolve_ok {purpose : Purpose} {path : String} {target : Target}
    (resolved : files.resolve purpose path = .ok target) :
    ∃ target', files'.resolve purpose path = .ok target' ∧ target'.outline = target.outline := by
  have same := alike.resolve purpose path
  rw [resolved] at same
  cases resolved' : files'.resolve purpose path with
  | error _ => simp [resolved', Except.map] at same
  | ok target' => exact ⟨target', rfl, by simpa [resolved', Except.map] using same.symm⟩

theorem Alike.create_error {path : String} {cause : FileError}
    (failed : files.create path = .error cause) : files'.create path = .error cause := by
  simp only [create] at failed ⊢
  cases resolved : files.resolve .create path with
  | error cause' =>
      rw [alike.resolve_error resolved]
      rwa [resolved] at failed
  | ok target =>
      obtain ⟨target', resolved', same⟩ := alike.resolve_ok resolved
      rw [resolved] at failed
      cases target with
      | missing location => cases failed
      | existing location node =>
          cases node with
          | directory =>
              cases failed
              rw [resolved', eq_of_outline_directory same]
          | _ => cases failed

theorem Alike.find_directory {path : String} {location : Location}
    (found : files.find path = .ok (location, .directory)) :
    files'.find path = .ok (location, .directory) := by
  obtain ⟨target', resolved', same⟩ := alike.resolve_ok (resolve_of_find found)
  simp only [find, resolved', eq_of_outline_directory same]

/-- A file that can be created as an entry in one can be created so in the other. -/
theorem Alike.create_entry {root : Location} (tree : files.IsTree root) {base : String}
    {directory : Location} (found : files.find base = .ok (directory, .directory))
    (below : root <+: directory) {name : String} (named : IsEntryName name)
    {created : FileSystem × OpenFile} (success : files.create (Path.join base name) = .ok created) :
    created = (files.put (directory ++ [name]) (.file .empty), ⟨directory ++ [name], 0⟩) ∧
      files'.create (Path.join base name) =
        .ok (files'.put (directory ++ [name]) (.file .empty), ⟨directory ++ [name], 0⟩) ∧
      files.node? (directory ++ [name]) ≠ some .directory := by
  obtain ⟨made, vacant⟩ := tree.create_entry found below named success
  cases success' : files'.create (Path.join base name) with
  | error cause => cases success.symm.trans (alike.symm.create_error success')
  | ok created' =>
      obtain ⟨rfl, -⟩ := (tree.of_outline alike.outline).create_entry (alike.find_directory found)
        below named success'
      exact ⟨made, rfl, vacant⟩

end

theorem isEntryName_or_dots {name : String} (named : Path.IsName name) :
    IsEntryName name ∨ name = "." ∨ name = ".." := by
  by_cases here : name = "."
  · exact .inr (.inl here)
  · by_cases parent : name = ".."
    · exact .inr (.inr parent)
    · exact .inl ⟨named, here, parent⟩

/-- What is read is told by what a path leads to, and by what is in there. -/
theorem read_congr {path : String} (alike : files.find path = files'.find path)
    (shown : ∀ location node, files.find path = .ok (location, node) →
      files.content location = files'.content location) :
    files.read path = files'.read path := by
  unfold FileSystem.read
  rw [← alike]
  cases found : files.find path with
  | error _ => rfl
  | ok target => exact shown target.1 target.2 found

theorem readText_congr {path : String} (alike : files.find path = files'.find path)
    (shown : ∀ location node, files.find path = .ok (location, node) →
      files.node? location = files'.node? location) :
    files.readText path = files'.readText path := by
  have same := read_congr alike fun location node found => by
    simp only [FileSystem.content, shown location node found]
  unfold readText
  rw [same]

/-- The names of a directory and of its parent lead to these. -/
theorem resolve_dots {base name : String} {directory : Location}
    (found : files.find base = .ok (directory, .directory)) (dots : name = "." ∨ name = "..")
    {purpose : Purpose} {target : Target}
    (resolved : files.resolve purpose (Path.join base name) = .ok target) :
    target = .existing directory .directory ∨ target = .existing directory.dropLast .directory := by
  have named : Path.IsName name := by
    rcases dots with rfl | rfl <;> exact ⟨by decide, by decide⟩
  obtain ⟨there, found', links, walked⟩ := resolve_join (path_ne_empty found) named resolved
  rw [found] at found'
  cases found'
  rcases dots with rfl | rfl
  · rw [walk_here] at walked
    exact .inl (Except.ok.inj walked).symm
  · rw [walk_parent] at walked
    exact .inr (Except.ok.inj walked).symm

section
variable {base name : String} {directory : Location} (tree : files.IsTree root)
  (found : files.find base = .ok (directory, .directory)) (below : root <+: directory)
  (named : Path.IsName name)
include tree found below named

/-- A name leads into the directory, to itself or to the parent. -/
theorem IsTree.find_name {location : Location} {node : Node}
    (entry : files.find (Path.join base name) = .ok (location, node)) :
    location = directory ++ [name] ∨ location = directory ∨ location = directory.dropLast := by
  rcases isEntryName_or_dots named with named | dots
  · exact .inl (tree.find_entry found below named entry).1
  · rcases resolve_dots found dots (resolve_of_find entry) with same | same <;> cases same
    · exact .inr (.inl rfl)
    · exact .inr (.inr rfl)

end

end
end SiteIndex.FileSystem

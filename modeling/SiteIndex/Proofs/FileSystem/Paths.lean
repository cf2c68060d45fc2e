import SiteIndex.Proofs.FileSystem.Tree

/-!
What a path comes to that names an entry of a directory of a tree. It is told by the path, and by what
stands under the name, so the entry is found alike wherever that is the same, with the same errors.
-/

namespace SiteIndex.FileSystem

section
variable {files : FileSystem}

/-- Behind a directory that names lead to, what comes of one more name is what comes of it there.
Slashes behind the directory count for nothing. -/
theorem walkNames_onward {purpose : Purpose} {name : String} (named : name ≠ "")
    {slashes : List String} (empty : ∀ name ∈ slashes, name = "")
    {followLink followLink' : Location → List String → Except FileError Target}
    {there : Location} {outcome : Except FileError Target}
    (last : files.walkNames purpose followLink there [name] = outcome)
    (onward : ∀ here names,
      followLink' here (names ++ slashes) = .ok (.existing there .directory) →
        followLink here (names ++ [name]) = outcome)
    (here : Location) (names : List String)
    (walked : files.walkNames .lookUp followLink' here (names ++ slashes) =
      .ok (.existing there .directory)) :
    files.walkNames purpose followLink here (names ++ [name]) = outcome := by
  rw [← walksTo_iff] at walked ⊢
  induction names generalizing here with
  | nil =>
      have here' := walkNames_slashes files followLink' here empty
      cases here'.symm.trans walked.eq
      exact walksTo_iff.mpr last
  | cons first rest ih =>
      have unended : isSlashes (rest ++ [name]) = false := by simp [isSlashes, named]
      have looksOn {purpose' : Purpose} {names : List String} (looks : LooksUp purpose' first names) :
          LooksUp purpose first (rest ++ [name]) :=
        looks.onward fun both => Bool.false_ne_true (unended.symm.trans both.2)
      rw [List.cons_append] at walked ⊢
      cases walked with
      | stay stays further => exact .stay stays (ih _ further)
      | up up further => exact .up up (ih _ further)
      | enter looks found further => exact .enter (looksOn looks) found (ih _ further)
      | link looks found followed =>
          refine .link (looksOn looks) found ?_
          rw [← List.append_assoc] at followed ⊢
          exact onward _ _ followed
      | reach _ _ writable _ => cases writable

theorem walk_onward {purpose : Purpose} {name : String} (named : name ≠ "")
    {slashes : List String} (empty : ∀ name ∈ slashes, name = "") {there : Location}
    {outcome : Except FileError Target}
    (last : ∀ links, files.walk purpose links there [name] = outcome) (links : Nat) (here : Location)
    (names : List String)
    (walked : files.walk .lookUp links here (names ++ slashes) = .ok (.existing there .directory)) :
    files.walk purpose links here (names ++ [name]) = outcome := by
  induction links generalizing here names with
  | zero =>
      refine walkNames_onward named empty (last 0) (fun _ _ failed => ?_) here names walked
      cases failed
  | succ links ih => exact walkNames_onward named empty (last (links + 1)) ih here names walked

/-- What a path comes to whose last name leads to an entry of a directory: `node` if something is
there. -/
def entryTarget (path name : String) (location : Location) (node : Option Node) :
    Except FileError Target :=
  if '\x00' ∈ path.toList then .error .nulInName
  else if pathByteLimit ≤ path.utf8ByteSize then .error .nameTooLong
  else if maxNameBytes < name.utf8ByteSize then .error .nameTooLong
  else
    match node with
    | some node => .ok (.existing location node)
    | none => .ok (.missing location)

theorem walk_entry_eq (purpose : Purpose) {name : String} (named : IsEntryName name)
    {there : Location} (linkless : ∀ text, files.node? (there ++ [name]) ≠ some (.link text))
    (links : Nat) :
    files.walk purpose links there [name] =
      if maxNameBytes < name.utf8ByteSize then .error .nameTooLong
      else match files.node? (there ++ [name]) with
        | some node => .ok (.existing (there ++ [name]) node)
        | none => .ok (.missing (there ++ [name])) := by
  have stepped : ∃ followLink, files.walk purpose links there [name] =
      files.walkNames purpose followLink there [name] := by
    cases links <;> exact ⟨_, rfl⟩
  obtain ⟨followLink, stepped⟩ := stepped
  rw [stepped]
  simp only [walkNames, named.nonempty, named.notHere, named.notParent, or_self, if_false, isSlashes,
    List.isEmpty_nil, Bool.not_true, Bool.false_and, Bool.false_eq_true, and_false, if_true]
  split
  · rfl
  · cases found : files.node? (there ++ [name]) with
    | none => rfl
    | some node =>
        cases node with
        | link text => exact absurd found (linkless text)
        | _ => rfl

/-- What a joined path comes to, if it can be followed at all, is what the name comes to from the
directory that it is joined to. -/
theorem resolve_onward {base : String} {directory : Location}
    (found : files.find base = .ok (directory, .directory)) {name : String}
    (named : Path.IsName name) {purpose : Purpose} {outcome : Except FileError Target}
    (last : ∀ links, files.walk purpose links directory [name] = outcome) :
    files.resolve purpose (Path.join base name) =
      if '\x00' ∈ (Path.join base name).toList then .error .nulInName
      else if pathByteLimit ≤ (Path.join base name).utf8ByteSize then .error .nameTooLong
      else outcome := by
  have nonempty := path_ne_empty found
  obtain ⟨before, joined, split⟩ := Path.names_join nonempty named
  obtain ⟨_, _, _, walked⟩ := walk_of_resolve (resolve_of_find found)
  have whole : (Path.join base name).isEmpty = false := by
    obtain ⟨behind, longer⟩ := Path.join_eq_append base named
    simp [longer, nonempty]
  have reached : files.walk purpose maxLinks
      (if Path.isAbsolute (Path.join base name) then [] else files.workingDirectory)
      (Path.names (Path.join base name)) = outcome := by
    rw [joined, Path.isAbsolute_join nonempty named]
    rcases split with same | slash
    · rw [same, ← List.append_nil before] at walked
      exact walk_onward named.nonempty (by simp) last _ _ _ walked
    · rw [slash] at walked
      exact walk_onward named.nonempty (by simp) last _ _ _ walked
  unfold resolve
  rw [reached, whole]
  simp only [Bool.false_eq_true, if_false]

/-- The names of a directory and of its parent lead to these, or fail, whatever else there is. -/
theorem find_dots_congr {files' : FileSystem} {base : String} {directory : Location}
    (found : files.find base = .ok (directory, .directory))
    (found' : files'.find base = .ok (directory, .directory)) {name : String}
    (dots : name = "." ∨ name = "..") :
    files.find (Path.join base name) = files'.find (Path.join base name) ∧
      ∀ target, files.find (Path.join base name) = .ok target →
        target.1 = directory ∨ target.1 = directory.dropLast := by
  have named : Path.IsName name := by
    rcases dots with rfl | rfl <;> exact ⟨by decide, by decide⟩
  obtain ⟨location, last⟩ : ∃ location, ∀ (files : FileSystem) links,
      files.walk .lookUp links directory [name] = .ok (.existing location .directory) := by
    rcases dots with rfl | rfl
    · exact ⟨directory, fun files links => walk_here files .lookUp links directory⟩
    · exact ⟨directory.dropLast, fun files links => walk_parent files .lookUp links directory⟩
  constructor
  · unfold find
    rw [resolve_onward found named (last files), resolve_onward found' named (last files')]
  · rintro ⟨there, node⟩ leads
    rcases resolve_dots found dots (resolve_of_find leads) with same | same <;> cases same
    · exact .inl rfl
    · exact .inr rfl

/-- What can be read under the names of a directory and of its parent is told by what stands there. -/
theorem readText_dots_congr {files' : FileSystem} {base : String} {directory : Location}
    (found : files.find base = .ok (directory, .directory))
    (found' : files'.find base = .ok (directory, .directory)) {name : String}
    (dots : name = "." ∨ name = "..") (here : files.node? directory = files'.node? directory)
    (above : files.node? directory.dropLast = files'.node? directory.dropLast) :
    files.readText (Path.join base name) = files'.readText (Path.join base name) := by
  obtain ⟨alike, there⟩ := find_dots_congr found found' dots
  refine readText_congr alike fun location node entry => ?_
  rcases there _ entry with rfl | rfl <;> assumption

section
variable {root : Location} (tree : files.IsTree root) {base : String} {directory : Location}
  (found : files.find base = .ok (directory, .directory)) (below : root <+: directory)
  {name : String} (named : IsEntryName name)
include tree found below named

theorem IsTree.resolve_entry_eq (purpose : Purpose) :
    files.resolve purpose (Path.join base name) =
      entryTarget (Path.join base name) name (directory ++ [name])
        (files.node? (directory ++ [name])) := by
  have linkless (text : String) : files.node? (directory ++ [name]) ≠ some (.link text) := by
    intro link
    rcases tree.plain _ _ (List.prefix_append_of_prefix below) link with plain | ⟨_, plain⟩ <;>
      cases plain
  exact resolve_onward found named.toIsName (walk_entry_eq purpose named linkless)

theorem IsTree.find_entry_eq :
    files.find (Path.join base name) =
      match entryTarget (Path.join base name) name (directory ++ [name])
          (files.node? (directory ++ [name])) with
      | .ok (.existing location node) => .ok (location, node)
      | .ok (.missing _) => .error .notFound
      | .error cause => .error cause := by
  have resolved := tree.resolve_entry_eq found below named .lookUp
  unfold find
  cases target : entryTarget (Path.join base name) name (directory ++ [name])
    (files.node? (directory ++ [name])) with
  | error cause => simp only [resolved, target]
  | ok target' => cases target' <;> simp only [resolved, target]

end

/-- An entry under which the same stands in another tree is found alike there. -/
theorem IsTree.find_entry_congr {files' : FileSystem} {root root' : Location}
    (tree : files.IsTree root) (tree' : files'.IsTree root') {base : String} {directory : Location}
    (found : files.find base = .ok (directory, .directory))
    (found' : files'.find base = .ok (directory, .directory)) (below : root <+: directory)
    (below' : root' <+: directory) {name : String} (named : IsEntryName name)
    (same : files.node? (directory ++ [name]) = files'.node? (directory ++ [name])) :
    files.find (Path.join base name) = files'.find (Path.join base name) := by
  rw [tree.find_entry_eq found below named, tree'.find_entry_eq found' below' named, same]

theorem IsTree.readText_entry_congr {files' : FileSystem} {root root' : Location}
    (tree : files.IsTree root) (tree' : files'.IsTree root') {base : String} {directory : Location}
    (found : files.find base = .ok (directory, .directory))
    (found' : files'.find base = .ok (directory, .directory)) (below : root <+: directory)
    (below' : root' <+: directory) {name : String} (named : IsEntryName name)
    (same : files.node? (directory ++ [name]) = files'.node? (directory ++ [name])) :
    files.readText (Path.join base name) = files'.readText (Path.join base name) := by
  refine readText_congr (tree.find_entry_congr tree' found found' below below' named same)
    fun location node entry => ?_
  obtain ⟨rfl, _⟩ := tree.find_entry found below named entry
  exact same

section
variable {files' : FileSystem} {hidden : Location → Prop} (alike : Alike hidden files files')
  {root : Location} (tree : files.IsTree root) {base : String} {directory : Location}
  (found : files.find base = .ok (directory, .directory)) (below : root <+: directory)
include alike tree found below

/-- An entry that is not hidden is found alike. -/
theorem Alike.find_entry {name : String} (named : IsEntryName name)
    (shown : ¬ hidden (directory ++ [name])) :
    files.find (Path.join base name) = files'.find (Path.join base name) :=
  tree.find_entry_congr (tree.of_outline alike.outline) found (alike.find_directory found) below below
    named (alike.shown _ shown)

theorem Alike.readText_entry {name : String} (named : IsEntryName name)
    (shown : ¬ hidden (directory ++ [name])) :
    files.readText (Path.join base name) = files'.readText (Path.join base name) :=
  tree.readText_entry_congr (tree.of_outline alike.outline) found (alike.find_directory found) below
    below named (alike.shown _ shown)

theorem Alike.find_name {name : String} (named : Path.IsName name)
    (shown : ¬ hidden (directory ++ [name])) :
    files.find (Path.join base name) = files'.find (Path.join base name) := by
  rcases isEntryName_or_dots named with named | dots
  · exact alike.find_entry tree found below named shown
  · exact (find_dots_congr found (alike.find_directory found) dots).1

/-- An entry of an entry is found alike as well. -/
theorem Alike.find_inner {outer inner : String} (named : IsEntryName outer) (named' : IsEntryName inner)
    (shown : ¬ hidden (directory ++ [outer] ++ [inner])) :
    files.find (Path.join (Path.join base outer) inner) =
        files'.find (Path.join (Path.join base outer) inner) ∧
      ∀ location node, files.find (Path.join (Path.join base outer) inner) = .ok (location, node) →
        location = directory ++ [outer] ++ [inner] := by
  cases resolved : files.resolve .lookUp (Path.join (Path.join base outer) inner) with
  | error cause =>
      have failed : files.find (Path.join (Path.join base outer) inner) = .error cause := by
        simp only [find, resolved]
      have failed' : files'.find (Path.join (Path.join base outer) inner) = .error cause := by
        simp only [find, alike.resolve_error resolved]
      rw [failed, failed']
      refine ⟨rfl, fun _ _ found => ?_⟩
      cases found
  | ok target =>
      have nonempty : Path.join base outer ≠ "" := by
        obtain ⟨behind, longer⟩ := Path.join_eq_append base named.toIsName
        rw [longer]
        simp [path_ne_empty found]
      obtain ⟨there, found', _⟩ := resolve_join nonempty named'.toIsName resolved
      obtain ⟨rfl, _⟩ := tree.find_entry found below named found'
      have below' : root <+: directory ++ [outer] := List.prefix_append_of_prefix below
      exact ⟨alike.find_entry tree found' below' named' shown, fun location node entry =>
        (tree.find_entry found' below' named' entry).1⟩

end

/-- Where a file can be created it is an entry that is created, not a directory on the way. -/
theorem IsTree.create_name {root : Location} (tree : files.IsTree root) {base : String}
    {directory : Location} (found : files.find base = .ok (directory, .directory))
    (below : root <+: directory) {name : String} (named : Path.IsName name)
    {created : FileSystem × OpenFile} (success : files.create (Path.join base name) = .ok created) :
    IsEntryName name ∧
      created = (files.put (directory ++ [name]) (.file .empty), ⟨directory ++ [name], 0⟩) ∧
        files.node? (directory ++ [name]) ≠ some .directory := by
  rcases isEntryName_or_dots named with entryName | dots
  · exact ⟨entryName, tree.create_entry found below entryName success⟩
  · cases resolved : files.resolve .create (Path.join base name) with
    | error cause =>
        simp only [create, resolved] at success
        cases success
    | ok target =>
        simp only [create, resolved] at success
        rcases resolve_dots found dots resolved with rfl | rfl <;> cases success

end

/-- A name that is a path as well: it leads to an entry of the working directory. -/
structure IsShortPath (name : String) : Prop extends IsEntryName name where
  whole : '\x00' ∉ name.toList
  short : name.utf8ByteSize ≤ maxNameBytes

instance (name : String) : Decidable (IsShortPath name) :=
  decidable_of_iff (IsEntryName name ∧ '\x00' ∉ name.toList ∧ name.utf8ByteSize ≤ maxNameBytes)
    ⟨fun ⟨named, whole, short⟩ => ⟨named, whole, short⟩,
      fun path => ⟨path.toIsEntryName, path.whole, path.short⟩⟩

section
variable {files : FileSystem} {name target : String}

theorem IsShortPath.names (path : IsShortPath name) : Path.names name = [name] := by
  rw [Path.names, Path.splitBy_eq_self path.unsplit, List.map_singleton, String.ofList_toList]

theorem IsShortPath.resolve (path : IsShortPath name) (purpose : Purpose) :
    files.resolve purpose name = files.walk purpose maxLinks files.workingDirectory [name] := by
  have filled : ¬ name.isEmpty = true := by simpa using path.nonempty
  have short : ¬ pathByteLimit ≤ name.utf8ByteSize :=
    Nat.not_le.mpr (Nat.lt_of_le_of_lt path.short (by decide))
  have relative : ¬ Path.isAbsolute name = true := Bool.eq_false_iff.mp path.relative
  rw [FileSystem.resolve, if_neg path.whole, if_neg filled, if_neg short, if_neg relative, path.names]

theorem IsShortPath.find_absent (path : IsShortPath name)
    (absent : files.node? (files.workingDirectory ++ [name]) = none) :
    files.find name = .error .notFound := by
  have linkless (text : String) :
      files.node? (files.workingDirectory ++ [name]) ≠ some (.link text) := by
    rw [absent]
    nofun
  rw [FileSystem.find, path.resolve, walk_entry_eq .lookUp path.toIsEntryName linkless,
    if_neg (Nat.not_lt.mpr path.short), absent]

section
variable {content : ByteArray}

theorem IsShortPath.walk_file (path : IsShortPath name)
    (stands : files.node? (files.workingDirectory ++ [name]) = some (.file content)) (links : Nat) :
    files.walk .lookUp links files.workingDirectory [name] =
      .ok (.existing (files.workingDirectory ++ [name]) (.file content)) := by
  have linkless (text : String) :
      files.node? (files.workingDirectory ++ [name]) ≠ some (.link text) := by
    rw [stands]
    nofun
  rw [walk_entry_eq .lookUp path.toIsEntryName linkless, if_neg (Nat.not_lt.mpr path.short), stands]

theorem IsShortPath.find_file (path : IsShortPath name)
    (stands : files.node? (files.workingDirectory ++ [name]) = some (.file content)) :
    files.find name = .ok (files.workingDirectory ++ [name], .file content) := by
  rw [find, path.resolve, path.walk_file stands]

theorem IsShortPath.find_linked (path : IsShortPath name) (path' : IsShortPath target)
    (linked : files.node? (files.workingDirectory ++ [name]) = some (.link target))
    (stands : files.node? (files.workingDirectory ++ [target]) = some (.file content)) :
    files.find name = .ok (files.workingDirectory ++ [target], .file content) := by
  have followed : files.walk .lookUp maxLinks files.workingDirectory [name] =
      files.walk .lookUp (maxLinks - 1) files.workingDirectory [target] := by
    change files.walkNames .lookUp (files.walk .lookUp (maxLinks - 1)) files.workingDirectory [name] = _
    simp only [walkNames, path.nonempty, path.notHere, path.notParent, or_self, if_false,
      reduceCtorEq, false_and, if_neg (Nat.not_lt.mpr path.short), linked, path'.relative,
      path'.names, Bool.false_eq_true, List.append_nil]
  rw [find, path.resolve, followed, path'.walk_file stands]

end

end

end SiteIndex.FileSystem

import SiteIndex.Proofs.FileSystem.Following

/-!
A path that has been put together from the path of a directory and a name. It leads somewhere only if
the first part leads to a directory, and then to what that directory has under the name.
-/

namespace SiteIndex

namespace Path

theorem splitBy_ne_nil (separator : Char) (text : List Char) : splitBy separator text ≠ [] := by
  cases text with
  | nil => simp [splitBy]
  | cons c rest =>
      simp only [splitBy]
      split
      · simp
      · split <;> simp

theorem splitBy_append (separator : Char) (first second : List Char) :
    splitBy separator (first ++ separator :: second) =
      splitBy separator first ++ splitBy separator second := by
  induction first with
  | nil => simp [splitBy]
  | cons c rest ih =>
      by_cases here : c = separator
      · simp [splitBy, here, ih]
      · cases pieces : splitBy separator rest with
        | nil => exact absurd pieces (splitBy_ne_nil separator rest)
        | cons piece pieces' => simp [splitBy, here, ih, pieces]

theorem splitBy_eq_self {separator : Char} {text : List Char} (free : separator ∉ text) :
    splitBy separator text = [text] := by
  induction text with
  | nil => rfl
  | cons c rest ih =>
      have other : c ≠ separator := fun same => free (by simp [same])
      simp [splitBy, other, ih (fun within => free (List.mem_cons_of_mem c within))]

/-- A name of its own in a path. -/
structure IsName (name : String) : Prop where
  nonempty : name ≠ ""
  unsplit : '/' ∉ name.toList

theorem IsName.relative {name : String} (named : IsName name) : isAbsolute name = false := by
  simp only [isAbsolute, beq_eq_false_iff_ne]
  intro slash
  exact named.unsplit (List.mem_of_mem_head? slash)

theorem names_append (base name : String) (named : IsName name) :
    names (base ++ "/" ++ name) = names base ++ [name] := by
  have text : (base ++ "/" ++ name).toList = base.toList ++ '/' :: name.toList := by simp
  simp only [names, text, splitBy_append, splitBy_eq_self named.unsplit]
  simp

theorem join_eq_append (base : String) {name : String} (named : IsName name) :
    ∃ behind, join base name = base ++ behind := by
  simp only [join, named.relative, Bool.false_eq_true, if_false]
  split
  · exact ⟨name, rfl⟩
  · exact ⟨"/" ++ name, String.append_assoc ..⟩

theorem isAbsolute_join {base name : String} (nonempty : base ≠ "") (named : IsName name) :
    isAbsolute (join base name) = isAbsolute base := by
  obtain ⟨behind, longer⟩ := join_eq_append base named
  cases text : base.toList with
  | nil => exact absurd (String.toList_eq_nil_iff.mp text) nonempty
  | cons c rest => simp [longer, isAbsolute, text]

theorem utf8ByteSize_join (base : String) {name : String} (named : IsName name) :
    base.utf8ByteSize < (join base name).utf8ByteSize := by
  have letters := mt String.utf8ByteSize_eq_zero_iff.mp named.nonempty
  simp only [join, named.relative, Bool.false_eq_true, if_false]
  split
  · rw [String.utf8ByteSize_append]
    omega
  · rw [String.utf8ByteSize_append, String.utf8ByteSize_append]
    omega

/-- A slash at the end of the first part counts for nothing. -/
theorem names_join {base name : String} (nonempty : base ≠ "") (named : IsName name) :
    ∃ before, names (join base name) = before ++ [name] ∧
      (names base = before ∨ names base = before ++ [""]) := by
  have relative := named.relative
  by_cases slash : endsInSlash base = true
  · obtain ⟨before, split⟩ : ∃ before, base.toList = before ++ ['/'] := by
      simp only [endsInSlash, beq_iff_eq] at slash
      exact List.getLast?_eq_some_iff.mp slash
    have base_eq : base = String.ofList before ++ "/" := by
      rw [← String.toList_inj]
      simp [split]
    refine ⟨names (String.ofList before), ?_, .inr ?_⟩
    · simp only [join, relative, slash, Bool.or_true, if_true, Bool.false_eq_true, if_false]
      rw [base_eq, names_append _ _ named]
    · simp only [names, split, splitBy_append]
      simp [splitBy]
  · refine ⟨names base, ?_, .inl rfl⟩
    have full : base.isEmpty = false := by simpa using nonempty
    simp only [join, relative, full, slash, Bool.false_or, Bool.false_eq_true, if_false]
    exact names_append base name named

end Path

namespace FileSystem

/-- What a path comes to that leads to `location`, where no link is. -/
inductive Stands (files : FileSystem) (location : Location) : Target → Prop
  | existing (node : Node) (found : files.node? location = some node) :
      Stands files location (.existing location node)
  | missing (absent : files.node? location = none) : Stands files location (.missing location)

/-- A name that leads to an entry of the directory it is looked up in. -/
structure IsEntryName (name : String) : Prop extends Path.IsName name where
  notHere : name ≠ "."
  notParent : name ≠ ".."

theorem IsEntryName.append {name suffix : String} (named : IsEntryName name)
    (unsplit : '/' ∉ suffix.toList) {c : Char} (last : suffix.toList.getLast? = some c)
    (plain : c ≠ '.') : IsEntryName (name ++ suffix) := by
  have text : (name ++ suffix).toList.getLast? = some c := by simp [last]
  refine ⟨⟨fun empty => ?_, ?_⟩, fun here => ?_, fun parent => ?_⟩
  · simp [empty] at text
  · simp [named.unsplit, unsplit]
  · rw [here] at text
    exact plain (by simpa using text.symm)
  · rw [parent] at text
    exact plain (by simpa using text.symm)

/-- Names are followed from the left: before the last one, a directory must have been reached. -/
theorem walkNames_snoc (files : FileSystem) (purpose : Purpose) {name : String}
    {followLink followLink' : Location → List String → Except FileError Target}
    (last : Location → Target → Prop)
    (atEnd : ∀ here target,
      files.walkNames purpose followLink here [name] = .ok target → last here target)
    (onward : ∀ here names target, followLink here (names ++ [name]) = .ok target →
      ∃ there, followLink' here names = .ok (.existing there .directory) ∧ last there target)
    {target : Target} (here : Location) (names : List String)
    (walked : files.walkNames purpose followLink here (names ++ [name]) = .ok target) :
    ∃ there, files.walkNames .lookUp followLink' here names = .ok (.existing there .directory) ∧
      last there target := by
  simp only [← walksTo_iff] at atEnd walked ⊢
  induction names generalizing here with
  | nil => exact ⟨here, .done here, atEnd here target walked⟩
  | cons first rest ih =>
      rw [List.cons_append] at walked
      cases walked with
      | stay stays further =>
          obtain ⟨there, led, ended⟩ := ih _ further
          exact ⟨there, .stay stays led, ended⟩
      | up up further =>
          obtain ⟨there, led, ended⟩ := ih _ further
          exact ⟨there, .up up led, ended⟩
      | enter looks found further =>
          obtain ⟨there, led, ended⟩ := ih _ further
          exact ⟨there, .enter (looks.lookUp _) found led, ended⟩
      | link looks found followed =>
          rw [← List.append_assoc] at followed
          obtain ⟨there, led, ended⟩ := onward _ _ _ followed
          exact ⟨there, .link (looks.lookUp _) found led, ended⟩
      | missing _ _ last | reach _ _ _ last => simp at last

theorem walk_snoc (files : FileSystem) (purpose : Purpose) {name : String} {target : Target} (links : Nat) (here : Location) (names : List String)
    (walked : files.walk purpose links here (names ++ [name]) = .ok target) :
    ∃ there, files.walk .lookUp links here names = .ok (.existing there .directory) ∧
      ∃ links, files.walk purpose links there [name] = .ok target := by
  induction links generalizing target here names with
  | zero =>
      simp only [walk] at walked ⊢
      refine walkNames_snoc files purpose
        (fun there target => ∃ links, files.walk purpose links there [name] = .ok target)
        (fun here target walked => ⟨0, walked⟩) ?_ here names walked
      intro _ _ _ walked
      cases walked
  | succ links ih =>
      simp only [walk] at walked ⊢
      exact walkNames_snoc files purpose
        (fun there target => ∃ links, files.walk purpose links there [name] = .ok target)
        (fun here target walked => ⟨links + 1, walked⟩)
        (fun here names target walked => ih here names walked) here names walked

theorem walk_entry (files : FileSystem) (purpose : Purpose) {name : String}
    (named : IsEntryName name) {there : Location} (linkless : ∀ text,
      files.node? (there ++ [name]) ≠ some (.link text)) {links : Nat} {target : Target}
    (walked : files.walk purpose links there [name] = .ok target) :
    Stands files (there ++ [name]) target := by
  have stepped : ∃ followLink, files.walkNames purpose followLink there [name] = .ok target := by
    cases links <;> exact ⟨_, walked⟩
  obtain ⟨followLink, walked⟩ := stepped
  rw [← walksTo_iff] at walked
  cases walked with
  | stay stays _ => exact absurd stays (not_or.mpr ⟨named.nonempty, named.notHere⟩)
  | up up _ => exact absurd up named.notParent
  | enter _ found further =>
      cases further
      exact .existing _ found
  | link _ found _ => exact absurd found (linkless _)
  | missing _ absent _ => exact .missing absent
  | reach _ found _ _ => exact .existing _ found

theorem walk_here (files : FileSystem) (purpose : Purpose) (links : Nat) (there : Location) :
    files.walk purpose links there ["."] = .ok (.existing there .directory) := by
  cases links <;> rfl

theorem walk_parent (files : FileSystem) (purpose : Purpose) (links : Nat) (there : Location) :
    files.walk purpose links there [".."] = .ok (.existing there.dropLast .directory) := by
  cases links <;> rfl

/-- The directories of the one file system are directories of the other, and its links are links
there. -/
def Extends (files files' : FileSystem) : Prop :=
  files'.workingDirectory = files.workingDirectory ∧
    (∀ location, files.node? location = some .directory →
      files'.node? location = some .directory) ∧
    ∀ location target, files.node? location = some (.link target) →
      files'.node? location = some (.link target)

theorem Extends.refl (files : FileSystem) : files.Extends files :=
  ⟨rfl, fun _ => id, fun _ _ => id⟩

theorem Extends.trans {files files' files'' : FileSystem} (first : files.Extends files')
    (second : files'.Extends files'') : files.Extends files'' :=
  ⟨second.1.trans first.1, fun location directory => second.2.1 _ (first.2.1 location directory),
    fun location target link => second.2.2 _ _ (first.2.2 location target link)⟩

theorem walkNames_slashes (files : FileSystem)
    (followLink : Location → List String → Except FileError Target) (here : Location)
    {slashes : List String} (empty : ∀ name ∈ slashes, name = "") :
    files.walkNames .lookUp followLink here slashes = .ok (.existing here .directory) := by
  induction slashes with
  | nil => rfl
  | cons name rest ih =>
      simp only [walkNames, empty name (by simp), true_or, if_true]
      exact ih fun name within => empty name (List.mem_cons_of_mem _ within)

/-- A path to a directory passes through directories and links only, so it leads there in every file
system that has these, and with slashes behind it too. -/
theorem walkNames_extends {files files' : FileSystem} (extended : files.Extends files')
    {slashes : List String} (empty : ∀ name ∈ slashes, name = "")
    {followLink followLink' : Location → List String → Except FileError Target}
    {there : Location}
    (onward : ∀ here names, followLink here names = .ok (.existing there .directory) →
      followLink' here (names ++ slashes) = .ok (.existing there .directory))
    (here : Location) (names : List String)
    (walked : files.walkNames .lookUp followLink here names = .ok (.existing there .directory)) :
    files'.walkNames .lookUp followLink' here (names ++ slashes) =
      .ok (.existing there .directory) := by
  obtain ⟨_, directories, links⟩ := extended
  rw [← walksTo_iff] at walked ⊢
  induction names generalizing here with
  | nil =>
      cases walked
      exact walksTo_iff.mpr (walkNames_slashes files' followLink' _ empty)
  | cons first rest ih =>
      rw [List.cons_append]
      cases walked with
      | stay stays further => exact .stay stays (ih _ further)
      | up up further => exact .up up (ih _ further)
      | enter looks found further =>
          exact .enter (looks.lookUp _) (directories _ found) (ih _ further)
      | link looks found followed =>
          refine .link (looks.lookUp _) (links _ _ found) ?_
          rw [← List.append_assoc]
          exact onward _ _ followed
      | reach _ _ writable _ => cases writable

theorem walk_extends {files files' : FileSystem} (extended : files.Extends files')
    (slashes : List String) (empty : ∀ name ∈ slashes, name = "") {there : Location} (links : Nat)
    (here : Location) (names : List String)
    (walked : files.walk .lookUp links here names = .ok (.existing there .directory)) :
    files'.walk .lookUp links here (names ++ slashes) = .ok (.existing there .directory) := by
  induction links generalizing here names with
  | zero =>
      refine walkNames_extends extended empty ?_ here names walked
      intro _ _ walked
      cases walked
  | succ links ih => exact walkNames_extends extended empty ih here names walked

/-- What a path has to be like before it is followed. -/
theorem walk_of_resolve {files : FileSystem} {purpose : Purpose} {path : String} {target : Target}
    (resolved : files.resolve purpose path = .ok target) :
    '\x00' ∉ path.toList ∧ path ≠ "" ∧ path.utf8ByteSize < pathByteLimit ∧
      files.walk purpose maxLinks (if Path.isAbsolute path then [] else files.workingDirectory)
        (Path.names path) = .ok target := by
  simp only [resolve] at resolved
  split at resolved
  · cases resolved
  · next whole =>
    split at resolved
    · cases resolved
    · next nonempty =>
      split at resolved
      · cases resolved
      · next short => exact ⟨whole, by simpa using nonempty, by omega, resolved⟩

theorem find_of_walk {files : FileSystem} {path : String} {location : Location} {node : Node}
    (whole : '\x00' ∉ path.toList) (nonempty : path ≠ "")
    (short : path.utf8ByteSize < pathByteLimit)
    (walked : files.walk .lookUp maxLinks
      (if Path.isAbsolute path then [] else files.workingDirectory) (Path.names path) =
        .ok (.existing location node)) : files.find path = .ok (location, node) := by
  have full : ¬ path.isEmpty = true := by simpa using nonempty
  simp only [find, resolve, if_neg whole, if_neg full, if_neg (Nat.not_le.mpr short), walked]

theorem resolve_of_find {files : FileSystem} {path : String} {location : Location} {node : Node}
    (found : files.find path = .ok (location, node)) :
    files.resolve .lookUp path = .ok (.existing location node) := by
  simp only [find] at found
  split at found <;> cases found
  assumption

/-- A path to a directory still leads there when there are more files. -/
theorem find_extends {files files' : FileSystem} (extended : files.Extends files') {path : String}
    {location : Location} (found : files.find path = .ok (location, .directory)) :
    files'.find path = .ok (location, .directory) := by
  obtain ⟨whole, nonempty, short, walked⟩ := walk_of_resolve (resolve_of_find found)
  refine find_of_walk whole nonempty short ?_
  have walked := walk_extends extended [] (by simp) _ _ _ walked
  rwa [List.append_nil, ← extended.1] at walked

/-- What a joined path comes to is what the name comes to from the directory that it is joined to. -/
theorem resolve_join {files : FileSystem} {purpose : Purpose} {base name : String} {target : Target}
    (nonempty : base ≠ "") (named : Path.IsName name)
    (resolved : files.resolve purpose (Path.join base name) = .ok target) :
    ∃ there, files.find base = .ok (there, .directory) ∧
      ∃ links, files.walk purpose links there [name] = .ok target := by
  obtain ⟨before, joined, split⟩ := Path.names_join nonempty named
  obtain ⟨behind, longer⟩ := Path.join_eq_append base named
  obtain ⟨whole, _, short, walked⟩ := walk_of_resolve resolved
  rw [longer, String.toList_append] at whole
  have shorter : base.utf8ByteSize < pathByteLimit := by
    rw [longer, String.utf8ByteSize_append] at short
    omega
  rw [joined, Path.isAbsolute_join nonempty named] at walked
  obtain ⟨there, walked, last⟩ := walk_snoc files purpose _ _ _ walked
  refine ⟨there, find_of_walk ?_ nonempty shorter ?_, last⟩
  · exact fun within => whole (List.mem_append_left _ within)
  · rcases split with same | slash
    · rwa [same]
    · rw [slash]
      exact walk_extends (Extends.refl files) [""] (by simp) _ _ _ walked

end FileSystem
end SiteIndex

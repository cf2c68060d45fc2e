import SiteIndex.Proofs.FileSystem.Paths
import SiteIndex.Proofs.Listing.Entries
import SiteIndex.Proofs.Template.FileScenes

/-!
Two expansions into one file each, of file systems that differ in hidden files only. No widget looks
into a hidden file: descriptions, icons and links go by names that no hidden file has, and what is
announced is required not to be hidden.
-/

namespace SiteIndex.Template

open SiteIndex.Listing SiteIndex.FileSystem

/-- The names that a file may be hidden under. -/
def IsHiddenName (name : String) : Prop :=
  name = ".index.html" ∨ name = "index.html" ∨ name = "sitemap.xml"

theorem IsHiddenName.last {name : String} (known : IsHiddenName name) :
    name.toList.getLast? = some 'l' := by
  rcases known with rfl | rfl | rfl <;> decide

def HidesByName (hidden : Location → Prop) : Prop :=
  ∀ location, hidden location → ∃ directory name, location = directory ++ [name] ∧
    IsHiddenName name

theorem HidesByName.shown {hidden : Location → Prop} (hides : HidesByName hidden)
    (directory : Location) {name : String} {c : Char} (last : name.toList.getLast? = some c)
    (other : c ≠ 'l') : ¬ hidden (directory ++ [name]) := by
  intro within
  obtain ⟨_, name', same, known⟩ := hides _ within
  cases (List.append_inj' same rfl).2
  rw [known.last] at last
  exact other (Option.some.inj last).symm

/-- A snapshot of a directory of the tree, where the directory is still found. -/
def Sited (files : FileSystem) (root : Location) (snapshot : Snapshot) : Prop :=
  ∃ directory, files.find snapshot.path = .ok (directory, .directory) ∧ root <+: directory ∧
    ∀ entry ∈ snapshot.entries, IsEntryName entry.name

/-- The path of something in a directory of the tree that is not hidden. -/
def Announced (files : FileSystem) (root : Location) (hidden : Location → Prop) (target : String) :
    Prop :=
  ∃ base directory name, target = Path.join base name ∧
    files.find base = .ok (directory, .directory) ∧ root <+: directory ∧ Path.IsName name ∧
    ¬ hidden (directory ++ [name]) ∧ ¬ hidden directory ∧ ¬ hidden directory.dropLast

/-- What an expansion may look at is in the tree, and is not hidden. -/
structure Lodged (root : Location) (hidden : Location → Prop) (context : Context) (arena : Arena)
    (files : FileSystem) : Prop where
  conventions : context.conventions = .stock
  tree : files.IsTree root
  hides : HidesByName hidden
  sited : ∀ snapshot, context.directory.bind arena.get? = some snapshot →
    Sited files root snapshot
  announced : ∀ news, context.news = some news → Announced files root hidden news.target

section
variable {root : Location} {hidden : Location → Prop} {context : Context}

theorem Sited.extends {files files' : FileSystem} {snapshot snapshot' : Snapshot}
    (sited : Sited files root snapshot) (extended : files.Extends files')
    (path : snapshot'.path = snapshot.path) (entries : snapshot'.entries = snapshot.entries) :
    Sited files' root snapshot' := by
  obtain ⟨directory, found, below, named⟩ := sited
  exact ⟨directory, path ▸ find_extends extended found, below, entries ▸ named⟩

theorem Announced.extends {files files' : FileSystem} {target : String}
    (announced : Announced files root hidden target) (extended : files.Extends files') :
    Announced files' root hidden target := by
  obtain ⟨base, directory, name, rfl, found, rest⟩ := announced
  exact ⟨base, directory, name, rfl, find_extends extended found, rest⟩

theorem Lodged.congr {arena arena' : Arena} {files files' : FileSystem}
    (lodged : Lodged root hidden context arena files) (same : files.outline = files'.outline)
    (still : arena'.still context.directory = arena.still context.directory) :
    Lodged root hidden context arena' files' where
  conventions := lodged.conventions
  tree := lodged.tree.of_outline same
  hides := lodged.hides
  sited := by
    intro snapshot seen
    have alike : Alike (fun _ => True) files files' := ⟨same, fun _ shown => absurd trivial shown⟩
    obtain ⟨snapshot', before, path, entries⟩ := Arena.seen_alike still seen
    exact (lodged.sited snapshot' before).extends alike.extends path.symm entries.symm
  announced news told := by
    have alike : Alike (fun _ => True) files files' := ⟨same, fun _ shown => absurd trivial shown⟩
    exact (lodged.announced news told).extends alike.extends

theorem last_append (name : String) {suffix : String} {c : Char}
    (last : suffix.toList.getLast? = some c) : (name ++ suffix).toList.getLast? = some c := by
  simp [last]

theorem isEntryName_content : IsEntryName Conventions.stock.directoryContent :=
  ⟨⟨by decide, by decide⟩, by decide, by decide⟩

theorem isEntryName_summary : IsEntryName Conventions.stock.directoryDescription :=
  ⟨⟨by decide, by decide⟩, by decide, by decide⟩

theorem last_summary : Conventions.stock.directoryDescription.toList.getLast? = some 'd' := by
  decide

theorem isEntryName_description {name : String} (named : IsEntryName name) :
    IsEntryName (name ++ Conventions.stock.descriptionSuffix) :=
  named.append (by decide) (c := 'd') (by decide) (by decide)

theorem last_of_stripSuffix? {suffix name stem : String} {c : Char}
    (stripped : Sidecar.stripSuffix? suffix name = some stem)
    (last : suffix.toList.getLast? = some c) : name.toList.getLast? = some c := by
  simp only [Sidecar.stripSuffix?] at stripped
  split at stripped
  · next whole => rw [← whole]; simp [last]
  · cases stripped

theorem last_of_isLink {name : String} (linked : Sidecar.isLink .stock name = true) :
    name.toList.getLast? = some 'k' := by
  simp only [Sidecar.isLink, Bool.and_eq_true, Option.isSome_iff_exists] at linked
  obtain ⟨_, stem, stripped⟩ := linked
  exact last_of_stripSuffix? stripped (by decide)

/-- What is looked at: an entry of a directory, the description in a directory that is listed, or what is
announced. -/
inductive LooksInto (root : Location) (hidden : Location → Prop) (context : Context) (arena : Arena)
    (files : FileSystem) : String → Prop
  | entry {base name : String} {directory : Location}
      (found : files.find base = .ok (directory, .directory)) (below : root <+: directory)
      (named : IsEntryName name) (shown : ¬ hidden (directory ++ [name])) :
      LooksInto root hidden context arena files (Path.join base name)
  | inner {snapshot : Snapshot} {directory : Location} {listing : Entry}
      (seen : context.directory.bind arena.get? = some snapshot)
      (found : files.find snapshot.path = .ok (directory, .directory)) (below : root <+: directory)
      (listed : listing ∈ snapshot.entries) (named : IsEntryName listing.name)
      (kind : listing.isDirectory = true) :
      LooksInto root hidden context arena files
        (Path.join (Path.join snapshot.path listing.name) Conventions.stock.directoryDescription)
  | announced {target : String} (announced : Announced files root hidden target) :
      LooksInto root hidden context arena files target

/-- No widget looks at anything else: no hidden file has a name like the ones that it looks for. -/
theorem Lodged.looksInto {arena : Arena} {files : FileSystem}
    (lodged : Lodged root hidden context arena files) {path : String}
    (consults : context.Consults arena path) : LooksInto root hidden context arena files path := by
  rcases consults with ⟨snapshot, seen, consults⟩ | ⟨news, told, rfl⟩
  · obtain ⟨directory, found, below, named⟩ := lodged.sited snapshot seen
    rw [lodged.conventions] at consults
    have entry {name : String} (entryName : IsEntryName name) {c : Char}
        (last : name.toList.getLast? = some c) (other : c ≠ 'l') :
        LooksInto root hidden context arena files (Path.join snapshot.path name) :=
      .entry found below entryName (lodged.hides.shown directory last other)
    cases consults with
    | content => exact entry isEntryName_content (c := 'd') (by decide) (by decide)
    | summary => exact entry isEntryName_summary (c := 'd') (by decide) (by decide)
    | description listing selected =>
        have member := Snapshot.selected?_mem selected
        have outer := named listing member
        simp only [Sidecar.descriptionPath]
        split
        · next kind => exact .inner seen found below member outer kind
        · exact entry (isEntryName_description outer) (last_append listing.name (by decide))
            (by decide : 'd' ≠ 'l')
    | link listing selected linked =>
        have outer := named listing (Snapshot.selected?_mem selected)
        exact entry outer (last_of_isLink linked) (by decide)
    | icon listing selected =>
        have outer := isEntryName_description (named listing (Snapshot.selected?_mem selected))
        have last : Conventions.stock.iconSuffix.toList.getLast? = some 'g' := by decide
        exact entry (outer.append (by decide) last (by decide)) (last_append _ last)
          (by decide : 'g' ≠ 'l')
  · exact .announced (lodged.announced news told)

/-- What a widget may look at is found alike, and is not hidden. -/
theorem Lodged.found {arena : Arena} {files files' : FileSystem}
    (lodged : Lodged root hidden context arena files) (alike : Alike hidden files files')
    {path : String} (consults : context.Consults arena path) :
    files.find path = files'.find path ∧
      ∀ location node, files.find path = .ok (location, node) → ¬ hidden location := by
  cases lodged.looksInto consults with
  | entry found below named shown =>
      refine ⟨alike.find_entry lodged.tree found below named shown, fun _ _ entry => ?_⟩
      rw [(lodged.tree.find_entry found below named entry).1]
      exact shown
  | @inner _ directory listing _ found below _ named =>
      have shown := lodged.hides.shown (directory ++ [listing.name]) last_summary (by decide)
      obtain ⟨same, there⟩ := alike.find_inner lodged.tree found below named isEntryName_summary shown
      refine ⟨same, fun location node entry => ?_⟩
      rw [there location node entry]
      exact shown
  | announced announced =>
      obtain ⟨base, directory, name, rfl, found, below, named, shown, here, parent⟩ := announced
      refine ⟨alike.find_name lodged.tree found below named shown, fun _ _ entry => ?_⟩
      rcases lodged.tree.find_name found below named entry with rfl | rfl | rfl <;> assumption

end

/-- Scenes that show widgets the same. Their marks are the same on the way to the directory once that
has been marked. -/
structure Scene.Related (root : Location) (hidden : Location → Prop) (context : Context)
    (onWay : Bool) (scene scene' : Scene FileWriter) : Prop where
  lodged : Lodged root hidden context scene.arena scene.out.files
  accordant : Arena.Accordant (fun other => onWay = true ∧ ∃ id, context.directory = some id ∧
    other ∈ scene.arena.lineage id) scene.arena scene'.arena
  rootSteps : scene.rootSteps = scene'.rootSteps
  out : scene.out.out = scene'.out.out
  files : Alike hidden scene.out.files scene'.out.files
  shown : ¬ hidden scene.out.out.file.location
  holds : ∃ content, scene.out.files.node? scene.out.out.file.location = some (.file content)

section
variable {root : Location} {hidden : Location → Prop} {context : Context} {onWay : Bool}
  {scene scene' : Scene FileWriter}

namespace Scene.Related

theorem withArenas (related : Related root hidden context onWay scene scene') {onWay' : Bool}
    {arena arena' : Arena} (still : arena.still context.directory = scene.arena.still context.directory)
    (accordant : Arena.Accordant (fun other => onWay' = true ∧ ∃ id, context.directory = some id ∧
      other ∈ arena.lineage id) arena arena') :
    Related root hidden context onWay' { scene with arena := arena }
      { scene' with arena := arena' } where
  lodged := related.lodged.congr rfl still
  accordant := accordant
  rootSteps := related.rootSteps
  out := related.out
  files := related.files
  shown := related.shown
  holds := related.holds

theorem write (related : Related root hidden context onWay scene scene') (bytes : ByteArray) :
    Paired (Same (Related root hidden context onWay)) (fun _ _ => False)
      (Action.writeBytes FileWriter.sink bytes scene)
      (Action.writeBytes FileWriter.sink bytes scene') := by
  obtain ⟨content, holds⟩ := related.holds
  unfold Action.writeBytes
  by_cases none : bytes.isEmpty = true
  · rw [if_pos none, if_pos none]
    exact .ok ⟨rfl, related⟩
  · obtain ⟨out, content', place, written⟩ := BufferedFile.write_file scene.out.out bytes content
    obtain ⟨files, passed, changed⟩ := written scene.out.files holds
    obtain ⟨files', passed', changed'⟩ := written scene'.out.files
      (by rw [← related.files.shown _ related.shown, holds])
    rw [related.out] at passed'
    simp only [if_neg none, FileWriter.sink, FileWriter.write, passed, passed']
    refine .ok ⟨rfl, related.lodged.congr changed.alike.outline rfl, related.accordant,
      related.rootSteps, rfl, ?_, ?_, ?_⟩
    · exact changed.both related.files changed'
    · exact place ▸ related.shown
    · exact ⟨content', place ▸ changed.holds⟩

end Scene.Related

/-- Related scenes keep two expansions side by side. -/
theorem twinned_files (root : Location) (hidden : Location → Prop) (context : Context) :
    Twinned FileWriter.sink context (fun location => ¬ hidden location)
      (Scene.Related root hidden context) (fun _ _ => False) where
  forget related :=
    { related with
      accordant := ⟨related.accordant.unmarked, fun _ within => nomatch within.1⟩ }
  write bytes related := related.write bytes
  snapshot related := related.accordant.seen context.directory
  levels related := related.accordant.levels context.directory
  found related consults := related.lodged.found related.files consults
  content := by
    intro onWay scene scene' location related shown
    simp only [FileWriter.sink, content, related.files.shown location shown]
  advance id directory related :=
    related.withArenas (still_moves directory .advance) (related.accordant.advance_alongWay id)
  markWay id directory related :=
    related.withArenas (still_moves directory .markWay)
      (Arena.accordant_markWay_alongWay related.accordant.unmarked directory)
  nextSegment id directory related :=
    have stepped := related.accordant.nextSegment_alongWay directory
    ⟨stepped.1, related.withArenas (still_moves directory .nextSegment) stepped.2⟩
  rootSteps := by
    intro onWay scene scene' related
    exact ⟨related.rootSteps, fun steps =>
      { related with rootSteps := rfl }⟩

theorem expand_related {fuel fuel' : Nat} {suppressed : Bool} {template after after' : Template}
    {later later' : Scene FileWriter} {result result' : Except FileError Ending}
    (related : Scene.Related root hidden context false scene scene')
    (ended : template.expand (sceneHost FileWriter.sink context) fuel suppressed scene =
      some (result, after, later))
    (ended' : template.expand (sceneHost FileWriter.sink context) fuel' suppressed scene' =
      some (result', after', later')) :
    result = result' ∧ after = after' ∧ Scene.Related root hidden context false later later' := by
  obtain ⟨_, beside, paired⟩ := expand_paired (twinned_files root hidden context).alongside
    related ended
  cases expand_unique _ _ _ _ beside ended'
  cases paired with
  | ok same => exact ⟨rfl, rfl, same.2⟩
  | error _ broken => exact broken.elim

end
end SiteIndex.Template

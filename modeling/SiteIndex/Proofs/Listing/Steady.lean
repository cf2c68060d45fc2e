import Mathlib.Data.List.Basic
import SiteIndex.News.Item
import SiteIndex.Proofs.FileSystem.Reworked
import SiteIndex.Proofs.Listing.Entering
import SiteIndex.Proofs.Settings.Names

/-!
Listings that outputs do not change. Where outputs have names of their own, writing them leaves the
entries of every directory the same but for their sizes, and the news in it.
-/

namespace SiteIndex.Listing

open SiteIndex.FileSystem

/-- What tells an entry from the others in its listing. -/
def Entry.key (entry : Entry) : String × Bool :=
  (entry.name, entry.isDirectory)

/-- Listings of the same entries, whatever their sizes. -/
structure Snapshot.Similar (first second : Snapshot) : Prop where
  directories : first.directories.map Entry.key = second.directories.map Entry.key
  files : first.files.map Entry.key = second.files.map Entry.key

theorem insertEntry_key {entry entry' : Entry} (same : entry.key = entry'.key)
    {entries entries' : List Entry} (alike : entries.map Entry.key = entries'.map Entry.key) :
    (insertEntry entry entries).map Entry.key = (insertEntry entry' entries').map Entry.key := by
  induction entries generalizing entries' with
  | nil =>
      rw [List.map_nil, eq_comm, List.map_eq_nil_iff] at alike
      simp [alike, insertEntry, same]
  | cons other rest ih =>
      obtain ⟨other', rest', rfl, first, others⟩ := List.map_eq_cons_iff.mp alike.symm
      have name : entry.name = entry'.name := congrArg Prod.fst same
      have name' : other'.name = other.name := congrArg Prod.fst first
      simp only [insertEntry, name, name']
      split
      · simp [same, first, others]
      · simp [first, ih others.symm]

theorem Snapshot.Similar.insert {first second : Snapshot} (similar : first.Similar second)
    {entry entry' : Entry} (same : entry.key = entry'.key) :
    (first.insert entry).Similar (second.insert entry') := by
  have kind : entry.isDirectory = entry'.isDirectory := congrArg Prod.snd same
  unfold Snapshot.insert
  rw [kind]
  split
  · exact ⟨insertEntry_key same similar.directories, similar.files⟩
  · exact ⟨similar.directories, insertEntry_key same similar.files⟩

theorem Snapshot.Similar.foldl_insert {entries entries' : List Entry} {first second : Snapshot}
    (similar : first.Similar second) (alike : entries.map Entry.key = entries'.map Entry.key) :
    (entries.foldl Snapshot.insert first).Similar (entries'.foldl Snapshot.insert second) := by
  induction entries generalizing entries' first second with
  | nil =>
      rw [List.map_nil, eq_comm, List.map_eq_nil_iff] at alike
      rw [alike]
      exact similar
  | cons entry rest ih =>
      obtain ⟨entry', rest', rfl, same, others⟩ := List.map_eq_cons_iff.mp alike.symm
      simp only [List.foldl_cons]
      exact ih (similar.insert same.symm) others.symm

section
variable {first second : Snapshot} (similar : first.Similar second)
include similar

theorem Snapshot.Similar.names :
    first.directories.map Entry.name = second.directories.map Entry.name := by
  have same := congrArg (List.map Prod.fst) similar.directories
  simpa [List.map_map, Function.comp_def, Entry.key] using same

end

/-- What is written lies below `place` and has the name of an output. -/
structure Spared (settings : Settings) (place : Location) (made filled : Location → Prop) : Prop where
  named : ∀ location, made location ∨ filled location →
    ∃ output ∈ settings.outputNames, location.getLast? = some output
  deep : ∀ location, made location ∨ filled location → place.length < location.length

section
variable {settings : Settings} {place : Location} {made filled : Location → Prop}
  {files files' : FileSystem} (reworked : Reworked place made filled files files')
  (spared : Spared settings place made filled)
include reworked spared

/-- What stands under another name than that of an output stays. -/
theorem node?_steady {directory : Location} {name : String} (other : name ∉ settings.outputNames) :
    files'.node? (directory ++ [name]) = files.node? (directory ++ [name]) := by
  have unwritten : ¬ (made (directory ++ [name]) ∨ filled (directory ++ [name])) := by
    intro may
    obtain ⟨output, within, last⟩ := spared.named _ may
    rw [List.getLast?_concat, Option.some.injEq] at last
    exact other (last ▸ within)
  exact reworked.unchanged (fun may => unwritten (.inl may)) fun may => unwritten (.inr may)

theorem node?_above {location : Location} (above : location.length ≤ place.length) :
    files'.node? location = files.node? location :=
  reworked.unchanged (fun may => Nat.not_lt.mpr above (spared.deep _ (.inl may)))
    fun may => Nat.not_lt.mpr above (spared.deep _ (.inr may))

variable (tree : files.IsTree place) {path : String} {directory : Location}
  (found : files.find path = .ok (directory, .directory)) (below : place <+: directory)
include tree found

section
include below

theorem find_steady {name : String} (named : IsEntryName name)
    (other : name ∉ settings.outputNames) :
    files'.find (Path.join path name) = files.find (Path.join path name) :=
  (tree.find_entry_congr (reworked.tree tree) found (find_extends reworked.extended found) below
    below named (node?_steady reworked spared other).symm).symm

theorem readText_steady {name : String} (named : IsEntryName name)
    (other : name ∉ settings.outputNames) :
    files'.readText (Path.join path name) = files.readText (Path.join path name) :=
  (tree.readText_entry_congr (reworked.tree tree) found (find_extends reworked.extended found) below
    below named (node?_steady reworked spared other).symm).symm

/-- What becomes of an entry is told by its name and its description. -/
theorem classify_steady (valid : settings.defect? = none) (apart : settings.Apart) {name : String}
    (named : IsEntryName name) :
    Inclusion.classify files' settings path name = Inclusion.classify files settings path name := by
  have outer := Settings.isEntryName_append named (Settings.isSuffix_description valid)
  have other : name ++ settings.conventions.descriptionSuffix ∉ settings.outputNames :=
    fun within => apart.described _ within (by simp)
  simp only [Inclusion.classify, Inclusion.startsBlank,
    find_steady reworked spared tree found below outer other]

end

omit found in
/-- What can be read in the root under another name than that of an output stays, whatever the name. -/
theorem readText_root_steady {root : String} (rooted : files.find root = .ok (place, .directory))
    {name : String} (named : Path.IsName name) (other : name ∉ settings.outputNames) :
    files'.readText (Path.join root name) = files.readText (Path.join root name) := by
  rcases isEntryName_or_dots named with entryName | dots
  · exact readText_steady reworked spared tree rooted (List.prefix_refl _) entryName other
  · refine (readText_dots_congr rooted (find_extends reworked.extended rooted) dots
      (node?_above reworked spared (Nat.le_refl _)).symm
      (node?_above reworked spared ?_).symm).symm
    simp

end

/-- Of what is written, only the indexes may have been made. -/
structure Outputs (settings : Settings) (place : Location) (made filled : Location → Prop) : Prop
    extends Spared settings place made filled where
  fresh : ∀ location, made location → location.getLast? = some settings.outputs.index

section
variable {settings : Settings} {place : Location} {made filled : Location → Prop}
  {files files' : FileSystem} (reworked : Reworked place made filled files files')
  (outputs : Outputs settings place made filled)
include reworked outputs

/-- Nothing comes to stand but under the name of the index. -/
theorem outline_steady (directory : Location) {name : String}
    (other : name ≠ settings.outputs.index) :
    (files'.node? (directory ++ [name])).map Node.outline =
      (files.node? (directory ++ [name])).map Node.outline := by
  have turned := reworked.turned (directory ++ [name])
  generalize files.node? (directory ++ [name]) = earlier at turned
  generalize files'.node? (directory ++ [name]) = later at turned
  cases turned with
  | kept => rfl
  | filled => rfl
  | made new may =>
      have last := outputs.fresh _ may
      rw [List.getLast?_concat, Option.some.injEq] at last
      exact absurd last other

variable (tree : files.IsTree place) {path : String} {directory : Location}
  (found : files.find path = .ok (directory, .directory)) (below : place <+: directory)
include tree found below

section
variable (valid : settings.defect? = none) (apart : settings.Apart)
include valid apart

omit reworked outputs valid tree found below in
/-- The index is neither listed nor news. -/
theorem classify_index (files : FileSystem) (path : String) :
    Inclusion.classify files settings path settings.outputs.index = .exclude := by
  have unannounced : Sidecar.announced? settings.conventions settings.outputs.index = none := by
    refine Option.eq_none_iff_forall_ne_some.mpr fun target announced => ?_
    exact apart.announced _ (List.mem_cons_self ..) (Sidecar.suffix_of_announced announced)
  have reserved : Inclusion.isReserved settings settings.outputs.index = true := by
    simp [Inclusion.isReserved]
  simp [Inclusion.classify, unannounced, reserved]

/-- The names of the entries that are listed, and of those that are news, are as before. -/
theorem names_steady (kind : Inclusion) (shown : kind ≠ .exclude) :
    (files'.childNames directory).filter
        (fun name => Inclusion.classify files' settings path name == kind) =
      (files.childNames directory).filter
        (fun name => Inclusion.classify files settings path name == kind) := by
  have tree' := reworked.tree tree
  refine List.Perm.eq_of_pairwise (fun _ _ _ _ => String.le_antisymm)
    ((files'.childNames_sorted directory).filter _) ((files.childNames_sorted directory).filter _)
    ((List.perm_ext_iff_of_nodup ((tree'.nodup_childNames directory).filter _)
      ((tree.nodup_childNames directory).filter _)).mpr fun name => ?_)
  simp only [List.mem_filter, mem_childNames_iff, beq_iff_eq]
  by_cases index : name = settings.outputs.index
  · subst index
    rw [classify_index apart, classify_index apart]
    simp [shown.symm]
  · have outline := outline_steady reworked outputs directory index
    have present : files'.node? (directory ++ [name]) ≠ none ↔
        files.node? (directory ++ [name]) ≠ none := by
      refine not_congr ?_
      rw [← Option.map_eq_none_iff, outline, Option.map_eq_none_iff]
    rw [present]
    refine and_congr_right fun stands => ?_
    rw [classify_steady reworked outputs.toSpared tree found below valid apart
      (tree.named directory name below stands)]

/-- Where nothing is written but indexes, the entries listed have the same sizes as well. -/
theorem entriesIn_same (made_only : ∀ location, ¬ filled location) :
    entriesIn files' settings path directory = entriesIn files settings path directory := by
  unfold entriesIn
  rw [names_steady reworked outputs tree found below valid apart .include (by simp)]
  refine List.filterMap_congr fun name within => ?_
  obtain ⟨listed, included⟩ := List.mem_filter.mp within
  have named := tree.named directory name below (node?_of_mem_childNames listed)
  have same : files'.node? (directory ++ [name]) = files.node? (directory ++ [name]) := by
    refine reworked.unchanged (fun may => ?_) (made_only _)
    have last := outputs.fresh _ may
    rw [List.getLast?_concat, Option.some.injEq] at last
    rw [last, classify_index apart] at included
    cases included
  unfold Arena.entryAt?
  rw [tree.find_entry_congr (reworked.tree tree) found (find_extends reworked.extended found) below
    below named same.symm]

theorem newsSidecars_steady :
    newsSidecars files' settings path = newsSidecars files settings path := by
  simp only [newsSidecars, list, found, find_extends reworked.extended found]
  exact names_steady reworked outputs tree found below valid apart .news (by simp)

omit valid in
/-- What a sidecar says stays, for no output is one. -/
theorem load_steady {sidecar : String} (named : IsEntryName sidecar) :
    News.Item.load files' settings.conventions path sidecar =
      News.Item.load files settings.conventions path sidecar := by
  unfold News.Item.load
  cases announced : Sidecar.announced? settings.conventions sidecar with
  | none => rfl
  | some target =>
      have other : sidecar ∉ settings.outputNames := fun within =>
        apart.announced _ within (Sidecar.suffix_of_announced announced)
      simp only [readText_steady reworked outputs.toSpared tree found below named other]

end
end
end SiteIndex.Listing

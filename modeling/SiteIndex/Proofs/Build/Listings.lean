import SiteIndex.Proofs.Build.Feeds
import SiteIndex.Proofs.Listing.Entering

/-!
What two builds list in a directory. Nothing hidden lies in a directory that has not been written to
yet but the index template, and that one is not listed, so the two listings are the same.
-/

namespace SiteIndex.Build

open SiteIndex.Listing SiteIndex.FileSystem SiteIndex.Template

/-- What may differ between two builds when the directories that are `done` have been written: the
index template, the indexes, and the site map once the cursors do not meet. -/
def Site.veil (site : Site) (mapped : Bool) (done : Location → Prop) (location : Location) : Prop :=
  location = site.template ∨
    (∃ directory, done directory ∧ location = directory ++ ["index.html"]) ∨
      (mapped = true ∧ ¬ site.Meets ∧ (∃ directory, done directory) ∧
        location = site.output .sitemap)

/-- The template of the news feed where its body begins. -/
def Site.Ready (site : Site) (template : Template) : Prop :=
  template.AtBody ∧ site.news template.source

/-- Two builds on their walk. Nothing outside of the content root is done, and the site map stays open
if it has been opened. -/
structure Walking (site : Site) (mapped : Bool) (done : Location → Prop) (spot : Spot) (even : Prop)
    (state state' : State) : Prop
    extends Stage site spot site.Ready (site.veil mapped done) even state state' where
  mapping : state.sitemap.isSome = mapped
  within : ∀ directory, done directory → site.place <+: directory

/-- A directory of the site that is still to be written, and all below it. -/
structure Located (site : Site) (done : Location → Prop) (origin : FileSystem) (path : String)
    (directory : Location) : Prop where
  found : origin.find path = .ok (directory, .directory)
  below : site.place <+: directory
  climbs : ∀ between, site.place <+: between → between <+: directory → between ≠ site.place →
    origin.node? between = some .directory ∧ between.getLast? ≠ some "index.html" ∧
      between.getLast? ≠ some ".index.html"
  fresh : ∀ further, directory <+: further → ¬ done further

section
variable {site : Site} {mapped : Bool} {done : Location → Prop} {spot : Spot} {even : Prop}
  {state state' : State} {path : String} {directory : Location}

theorem Site.hidesByName_veil (site : Site) (mapped : Bool) (done : Location → Prop) :
    HidesByName (site.veil mapped done) := by
  rintro location (rfl | ⟨directory, _, rfl⟩ | ⟨_, _, _, rfl⟩)
  · exact ⟨_, _, rfl, .inl rfl⟩
  · exact ⟨_, _, rfl, .inr (.inl rfl)⟩
  · exact ⟨_, _, rfl, .inr (.inr rfl)⟩

theorem Site.veil_sitemap (site : Site) (mapped : Bool) (done : Location → Prop)
    (meets : site.Meets) : ¬ site.veil mapped done (site.output .sitemap) := by
  rintro (same | ⟨directory, done, same⟩ | ⟨_, unmet, _⟩)
  · exact absurd (List.append_inj' same rfl).2 (by decide)
  · exact absurd (List.append_inj' same rfl).2 (by decide)
  · exact unmet meets

theorem Walking.broken (walking : Walking site mapped done spot even state state') :
    Broken site state state' :=
  ⟨_, site.veil_sitemap mapped done, walking.primed_of fun _ _ => trivial⟩

/-- No entry of a directory still to be written is hidden but the index template. -/
theorem Walking.shown_entry (walking : Walking site mapped done spot even state state')
    (located : Located site done spot.origin path directory) {name : String}
    (other : directory ++ [name] ≠ site.template) :
    ¬ site.veil mapped done (directory ++ [name]) := by
  rintro (same | ⟨written, done, same⟩ | ⟨_, _, ⟨written, done⟩, same⟩)
  · exact other same
  · cases (List.append_inj' same rfl).1
    exact located.fresh directory (List.prefix_refl _) done
  · cases (List.append_inj' same rfl).1
    exact located.fresh written (walking.within written done) done

theorem Located.at_spot (located : Located site done spot.origin path directory)
    (walking : Walking site mapped done spot even state state') :
    state.files.find path = .ok (directory, .directory) :=
  find_extends walking.extended located.found

theorem Walking.veil_longer (walking : Walking site mapped done spot even state state')
    {location : Location} (veiled : site.veil mapped done location) :
    site.place.length < location.length := by
  rcases veiled with rfl | ⟨written, done, rfl⟩ | ⟨_, _, _, rfl⟩
  · simp [Site.template]
  · have longer := (walking.within written done).length_le
    rw [List.length_append]
    exact Nat.lt_add_one_of_le longer
  · simp [Site.output]

/-- No directory on the way to one still to be written is hidden. -/
theorem Walking.shown_between (walking : Walking site mapped done spot even state state')
    (located : Located site done spot.origin path directory) {between : Location}
    (below : site.place <+: between) (above : between <+: directory) :
    ¬ site.veil mapped done between := by
  intro veiled
  have longer := walking.veil_longer veiled
  have further : between ≠ site.place := fun same => by simp [same] at longer
  obtain ⟨stands, notIndex, notTemplate⟩ := located.climbs between below above further
  rcases veiled with rfl | ⟨written, _, rfl⟩ | ⟨opened, _, _, rfl⟩
  · simp [Site.template] at notTemplate
  · simp at notIndex
  · have directory := walking.extended.2.1 _ stands
    have mapping := walking.mapping
    rcases walking.feed_cases .sitemap with ⟨closed, _⟩ | ⟨feed, _, here, _, twin⟩
    · rw [opened, show state.sitemap = none from closed] at mapping
      cases mapping
    · obtain ⟨content, file⟩ := twin.opened
      cases directory.symm.trans file

theorem Walking.shown_parent (walking : Walking site mapped done spot even state state')
    (located : Located site done spot.origin path directory) :
    ¬ site.veil mapped done directory.dropLast := by
  by_cases root : directory = site.place
  · intro veiled
    have longer := walking.veil_longer veiled
    rw [root, List.length_dropLast] at longer
    omega
  · refine walking.shown_between located ?_ directory.dropLast_prefix
    obtain ⟨names, split⟩ := located.below
    have inner : names ≠ [] := fun none => root (by rw [← split, none, List.append_nil])
    rw [← split, List.dropLast_append_of_ne_nil inner]
    exact List.prefix_append _ _

theorem not_reserved {files : FileSystem} {name : String}
    (included : Inclusion.classify files .stock path name = .include) :
    name ≠ "index.html" ∧ name ≠ ".index.html" := by
  unfold Inclusion.classify at included
  dsimp only at included
  constructor <;> rintro rfl
  all_goals
    rw [if_neg (by decide), if_neg (by decide), if_pos (by decide)] at included
    cases included

section
variable (walking : Walking site mapped done spot even state state')
  (located : Located site done spot.origin path directory)
include walking located

theorem Walking.named {name : String} (listed : name ∈ state.files.childNames directory) :
    IsEntryName name :=
  walking.tree.named directory name located.below (node?_of_mem_childNames listed)

theorem Walking.classify_eq {name : String} (listed : name ∈ state.files.childNames directory) :
    Inclusion.classify state.files .stock path name =
      Inclusion.classify state'.files .stock path name := by
  have outer := isEntryName_description (walking.named located listed)
  have shown := walking.hides.shown directory (last_append name (by decide) :
    (name ++ Conventions.stock.descriptionSuffix).toList.getLast? = some 'd') (by decide)
  have same := walking.alike.find_entry walking.tree (located.at_spot walking) located.below outer
    shown
  simp only [Inclusion.classify, Inclusion.startsBlank, Settings.stock]
  rw [same]

/-- The two listings of a directory still to be written are the same. -/
theorem Walking.entries_eq :
    entriesIn state.files .stock path directory = entriesIn state'.files .stock path directory := by
  unfold entriesIn
  rw [← walking.alike.childNames directory]
  have accepts : ∀ name ∈ state.files.childNames directory,
      (Inclusion.classify state.files .stock path name == .include) =
        (Inclusion.classify state'.files .stock path name == .include) :=
    fun name listed => by rw [walking.classify_eq located listed]
  rw [← List.filter_congr accepts]
  refine List.filterMap_congr fun name accepted => ?_
  obtain ⟨listed, included⟩ := List.mem_filter.mp accepted
  have other : directory ++ [name] ≠ site.template := fun same =>
    (not_reserved (eq_of_beq included)).2 (List.head_eq_of_cons_eq (List.append_inj' same rfl).2)
  simp only [Arena.entryAt?]
  rw [walking.alike.find_entry walking.tree (located.at_spot walking) located.below
    (walking.named located listed) (walking.shown_entry located other)]

end

/-- The snapshot of a directory that has just been listed. Every directory in it is gone to by its own
name, and none is a file to be written. -/
structure Listed (files : FileSystem) (base : String) (directory : Location) (listing : Snapshot) :
    Prop where
  path : listing.path = base
  cursor : listing.cursor = .unset
  mark : listing.mark = none
  sorted : listing.Sorted
  named : ∀ entry ∈ listing.entries, IsEntryName entry.name
  leads : ∀ name ∈ listing.directories.map Entry.name,
    files.find (Path.join base name) = .ok (directory ++ [name], .directory) ∧
      files.node? (directory ++ [name]) = some .directory ∧ name ≠ "index.html" ∧
        name ≠ ".index.html"
  apart : (listing.directories.map Entry.name).Nodup

theorem Walking.listed (walking : Walking site mapped done spot even state state')
    (located : Located site done spot.origin path directory) (parent : Option Nat)
    (entryName : Option String) :
    Listed state.files path directory
      (listingOf state.files .stock parent entryName path directory) := by
  obtain ⟨_, _, path', cursor, mark⟩ :=
    listingOf_frame state.files .stock path directory parent entryName
  refine
    { path := path'
      cursor
      mark
      sorted := listingOf_sorted ..
      named := fun entry within => ?_
      leads := fun name within => ?_
      apart := listingOf_apart walking.tree }
  · exact walking.named located (of_mem_entriesIn (Snapshot.mem_entries_foldl_insert within)).1
  · obtain ⟨included, found, stands⟩ :=
      listingOf_leads walking.tree (located.at_spot walking) located.below within
    exact ⟨found, stands, not_reserved included⟩

end

end SiteIndex.Build

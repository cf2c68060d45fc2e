import SiteIndex.Proofs.Build.Listings

/-!
Two builds up to their walk. The templates are read, the index template with its two texts, and the
files of the feeds are created and their heads written.
-/

namespace SiteIndex.Build

open SiteIndex.Listing SiteIndex.FileSystem SiteIndex.Template

/-- The template of the news feed as it is opened. -/
def Site.Fresh (site : Site) (template : Template) : Prop :=
  ∃ source, template = .ofSource source ∧ site.news source

/-- Two builds before their walk, when only the index template is hidden. What the news feed is made
from is still to be read. -/
structure Opening (site : Site) (origin : FileSystem) (state state' : State) : Prop
    extends Stage site ⟨origin, none, .empty⟩ site.Fresh (· = site.template) True state state' where
  news : ∀ source, state.files.HoldsText (site.place ++ [".newsfeed.rss"]) source → site.news source

section
variable {site : Site} {origin : FileSystem} {state state' : State}

theorem Site.hidesByName_template (site : Site) : HidesByName (· = site.template) := by
  rintro _ rfl
  exact ⟨_, _, rfl, .inl rfl⟩

/-- A template that is not hidden is read alike. -/
theorem Opening.readTemplate (opening : Opening site origin state state') {name : String}
    (named : IsEntryName name) (other : name ≠ ".index.html") :
    state.files.readText (Path.join site.root name) =
      state'.files.readText (Path.join site.root name) := by
  refine opening.alike.readText_entry opening.tree opening.rooted (List.prefix_refl _) named ?_
  exact fun same => other (List.head_eq_of_cons_eq (List.append_inj' same rfl).2)

theorem Opening.broken (opening : Opening site origin state state') : Broken site state state' := by
  refine ⟨_, fun _ same => ?_, opening.primed_of fun _ _ => trivial⟩
  exact absurd (List.append_inj' same rfl).2 (by decide)

/-- The names of a feed. -/
def FeedKind.templateName : FeedKind → String
  | .sitemap => ".sitemap.xml"
  | .newsfeed => ".newsfeed.rss"

def FeedKind.outputName : FeedKind → String
  | .sitemap => "sitemap.xml"
  | .newsfeed => "newsfeed.rss"

theorem FeedKind.isEntryName_template (kind : FeedKind) : IsEntryName kind.templateName := by
  cases kind <;> exact ⟨⟨by decide, by decide⟩, by decide, by decide⟩

theorem FeedKind.isEntryName_output (kind : FeedKind) : IsEntryName kind.outputName := by
  cases kind <;> exact ⟨⟨by decide, by decide⟩, by decide, by decide⟩

theorem Site.output_eq (site : Site) (kind : FeedKind) :
    site.output kind = site.place ++ [kind.outputName] := by
  cases kind <;> rfl

/-- A feed that is opened in both builds, with an empty file. -/
theorem Opening.opened (opening : Opening site origin state state') (kind : FeedKind)
    (vacant : state.files.node? (site.output kind) ≠ some .directory) {feed : Feed}
    (lies : feed.out.file.location = site.output kind)
    (fresh : kind = .newsfeed → site.Fresh feed.template) :
    Opening site origin
      (State.setFeed { state with files := state.files.put (site.output kind) (.file .empty) } kind
        (some feed))
      (State.setFeed { state' with files := state'.files.put (site.output kind) (.file .empty) } kind
        (some feed)) where
  toStage := by
    have apart : kind.outputName ≠ ".index.html.news" := by cases kind <;> decide
    rw [site.output_eq] at lies vacant ⊢
    have created := opening.toStage.created (List.prefix_refl _) kind.isEntryName_output apart vacant
    have twins : Option.Rel (FeedTwin (· = site.template)
        (state.files.put (site.place ++ [kind.outputName]) (.file .empty)) (site.output kind))
        (some feed) (some feed) := by
      rw [site.output_eq]
      exact .some ⟨rfl, rfl, lies, lies, ⟨_, node?_putEntry ..⟩, fun _ => rfl⟩
    exact created.setFeed twins (fun newsfeed _ same => Option.some.inj same ▸ fresh newsfeed)
      fun _ _ => id
  news source holds := by
    refine opening.news source ?_
    obtain ⟨content, file, text⟩ := holds
    rw [State.setFeed_files] at file
    refine ⟨content, ?_, text⟩
    rw [site.output_eq, node?_put _ _ _ _ (by simp), if_neg] at file
    · exact file
    · refine fun same => absurd (List.append_inj' same rfl).2 ?_
      cases kind <;> decide

/-- A feed is opened in both builds or in neither. -/
theorem openFeed_aligned (kind : FeedKind) :
    Step.Aligned (Opening site origin) (fun _ _ => Opening site origin) (Broken site)
      (Step.openFeed site.plan kind kind.templateName kind.outputName)
      (Step.openFeed site.plan' kind kind.templateName kind.outputName) := by
  intro state state' opening result result' run run'
  have same : state.files.readText (Path.join site.plan.root kind.templateName) =
      state'.files.readText (Path.join site.plan'.root kind.templateName) :=
    opening.readTemplate kind.isEntryName_template (by cases kind <;> decide)
  obtain ⟨result, later⟩ := result
  cases Step.openFeed_cases run with
  | missing read =>
      cases (Step.OpensFeed.missing (same.symm.trans read)).run.symm.trans run'
      exact .ok opening
  | unreadable read present =>
      cases (Step.OpensFeed.unreadable (same.symm.trans read) present).run.symm.trans run'
      exact .error _ opening.broken
  | refused read refused =>
      cases (Step.OpensFeed.refused (same.symm.trans read)
        (opening.alike.create_error refused)).run.symm.trans run'
      exact .error _ opening.broken
  | @opened source _ _ read made =>
      obtain ⟨⟨⟩, made', vacant⟩ := opening.alike.create_entry opening.tree opening.rooted
        (List.prefix_refl _) kind.isEntryName_output made
      cases (Step.OpensFeed.opened (same.symm.trans read) made').run.symm.trans run'
      rw [← site.output_eq] at vacant ⊢
      refine .ok (opening.opened kind vacant rfl ?_)
      rintro rfl
      exact ⟨source, rfl, opening.news source (opening.tree.holdsText_of_readText
        opening.rooted (List.prefix_refl _) FeedKind.newsfeed.isEntryName_template read)⟩

/-- Both index templates are there, each with its text. -/
theorem readIndex_aligned :
    Step.Aligned (fun state state' => Opening site origin state state' ∧
        state.files.readText (Path.join site.root ".index.html") = .ok site.text ∧
        state'.files.readText (Path.join site.root ".index.html") = .ok site.text')
      (fun _ _ => Opening site origin) (Broken site)
      (Step.readIndex site.plan) (Step.readIndex site.plan') := by
  rintro state state' ⟨opening, read, read'⟩ result result' run run'
  rw [Step.readIndex_apply] at run run'
  have here : state.files.readText
      (Path.join site.plan.root site.plan.settings.templates.index) = .ok site.text := read
  have here' : state'.files.readText
      (Path.join site.plan'.root site.plan'.settings.templates.index) = .ok site.text' := read'
  rw [here] at run
  rw [here'] at run'
  cases run
  cases run'
  exact .ok { opening with index := .some ⟨rfl, rfl⟩ }

theorem isNone_of_rel {α β : Type} {related : α → β → Prop} {first : Option α}
    {second : Option β} (both : Option.Rel related first second) :
    first.isNone = second.isNone := by
  cases both <;> rfl

theorem requireTemplate_aligned :
    Step.Aligned (Opening site origin) (fun _ _ => Opening site origin) (Broken site)
      (Step.requireTemplate site.plan) (Step.requireTemplate site.plan') := by
  intro state state' opening result result' run run'
  have index := isNone_of_rel opening.index
  have sitemap : state.sitemap.isNone = state'.sitemap.isNone :=
    isNone_of_rel (opening.feeds .sitemap)
  have newsfeed : state.newsfeed.isNone = state'.newsfeed.isNone :=
    isNone_of_rel (opening.feeds .newsfeed)
  unfold Step.requireTemplate at run run'
  rw [Step.get_apply] at run run'
  rw [← index, ← sitemap, ← newsfeed] at run'
  split at run
  · next missing =>
    rw [if_pos missing] at run'
    cases run
    cases run'
    exact .error _ opening.broken
  · next found =>
    rw [if_neg found] at run'
    cases run
    cases run'
    exact .ok opening

section
variable {spot : Spot} {hidden : Location → Prop}

/-- What stands before the body of the site map is of no account for the news feed. -/
theorem writeHead_sitemap_aligned {ready : Template → Prop} (outside : spot.directory = none) :
    Step.Aligned (Stage site spot ready hidden True) (fun _ _ => Stage site spot ready hidden True)
      (Broken site) (Step.writeHead site.plan .sitemap) (Step.writeHead site.plan' .sitemap) := by
  rw [Step.writeHead_eq, Step.writeHead_eq]
  refine ifDivided_aligned ready ?_ fun _ old _ => old
  exact (expandOutside_aligned ready outside nofun fun _ _ old => old.1)

/-- Behind its head the news feed stands where its body begins. -/
theorem writeHead_newsfeed_aligned (outside : spot.directory = none) :
    Step.Aligned (Stage site spot site.Fresh hidden True)
      (fun _ _ => Stage site spot site.Ready hidden True) (Broken site)
      (Step.writeHead site.plan .newsfeed) (Step.writeHead site.plan' .newsfeed) := by
  rw [Step.writeHead_eq, Step.writeHead_eq]
  refine ifDivided_aligned site.Ready ?_ ?_
  · refine expandOutside_aligned site.Ready outside (fun _ _ template after _ _ _ _ old ended => ?_)
      nofun
    obtain ⟨⟨source, rfl, text⟩, divided⟩ := old
    obtain ⟨same, _⟩ := frame_of_expand ended
    refine ⟨.of_head (divided rfl) ended, ?_⟩
    change site.news after.source
    rwa [same]
  · rintro template ⟨source, rfl, text⟩ undivided
    refine ⟨.of_whole ?_, text⟩
    cases layout : Layout.ofSource source with
    | bodyOnly => rfl
    | headBodyTail => exact absurd layout (undivided rfl)

end

theorem openSite_aligned :
    Step.Aligned (fun state state' => Opening site origin state state' ∧
        state.files.readText (Path.join site.root ".index.html") = .ok site.text ∧
        state'.files.readText (Path.join site.root ".index.html") = .ok site.text')
      (fun _ _ => Stage site ⟨origin, none, .empty⟩ site.Ready (· = site.template) True)
      (Broken site) (Step.openSite site.plan) (Step.openSite site.plan') := by
  rw [Step.openSite_eq, Step.openSite_eq]
  refine readIndex_aligned.bind fun _ _ => ?_
  refine (openFeed_aligned .sitemap).bind fun _ _ => ?_
  refine (openFeed_aligned .newsfeed).bind fun _ _ => ?_
  refine requireTemplate_aligned.bind fun _ _ => ?_
  refine Step.Aligned.bind ((writeHead_sitemap_aligned rfl).given fun _ _ => Opening.toStage)
    fun _ _ => writeHead_newsfeed_aligned rfl

end

end SiteIndex.Build

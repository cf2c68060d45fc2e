import SiteIndex.Proofs.Build.Whole
import SiteIndex.Proofs.Settings.Names

/-!
What a build leaves alone. Nothing stands otherwise after it but at the places of the outputs: the index
of each directory, and the site map and the news feed in the root. Settings that are valid keep the index
apart from its template; that the other inputs are apart from the outputs is not made sure of.
-/

namespace SiteIndex.Build

open SiteIndex.FileSystem

section
variable {plan : Plan} {place : Location} {files later : FileSystem}
  {result : Except BuildError Report}

/-- Where a build writes indexes. -/
def Plan.Indexes (plan : Plan) (place location : Location) : Prop :=
  ∃ directory, place <+: directory ∧ location = directory ++ [plan.settings.outputs.index]

/-- Where a build writes feeds. -/
def Plan.Feeds (plan : Plan) (place location : Location) : Prop :=
  ∃ kind, location = plan.output place kind

def Plan.Writes (plan : Plan) (place location : Location) : Prop :=
  plan.Indexes place location ∨ plan.Feeds place location

theorem FeedKind.outputIn_mem (kind : FeedKind) (settings : Settings) :
    kind.outputIn settings.outputs ∈ settings.outputNames := by
  cases kind <;> simp [Settings.outputNames, FeedKind.outputIn]

/-- Outputs lie apart from each other. -/
theorem output_ne_output (distinct : plan.settings.outputNames.Nodup) {kind other : FeedKind}
    (differ : other ≠ kind) : plan.output place other ≠ plan.output place kind := by
  intro same
  have named : other.outputIn plan.settings.outputs = kind.outputIn plan.settings.outputs :=
    List.head_eq_of_cons_eq (List.append_inj' same rfl).2
  simp only [Settings.outputNames, List.nodup_cons, List.mem_cons, List.not_mem_nil, or_false]
    at distinct
  cases other <;> cases kind <;> first | exact differ rfl | skip
  · exact distinct.2.1 named
  · exact distinct.2.1 named.symm

theorem output_ne_index (distinct : plan.settings.outputNames.Nodup) {kind : FeedKind}
    (directory : Location) :
    plan.output place kind ≠ directory ++ [plan.settings.outputs.index] := by
  intro same
  have named : kind.outputIn plan.settings.outputs = plan.settings.outputs.index :=
    List.head_eq_of_cons_eq (List.append_inj' same rfl).2
  simp only [Settings.outputNames, List.nodup_cons, List.mem_cons, List.not_mem_nil, or_false]
    at distinct
  cases kind with
  | sitemap => exact distinct.1 (.inl named.symm)
  | newsfeed => exact distinct.1 (.inr named.symm)

theorem isName_outputIn (valid : plan.settings.defect? = none) (kind : FeedKind) :
    Path.IsName (kind.outputIn plan.settings.outputs) :=
  Settings.isName_output valid (kind.outputIn_mem plan.settings)

theorem Plan.ground (plan : Plan) (valid : plan.settings.defect? = none) (tree : files.IsTree place)
    (rooted : files.find plan.root = .ok (place, .directory)) :
    Ground plan place (plan.Writes place) (fun _ => False) files where
  tree := tree
  rooted := rooted
  indexName := Settings.isName_output valid (List.mem_cons_self ..)
  index directory below := .inl ⟨directory, below, rfl⟩
  feed kind := .inl (.inr ⟨kind, rfl⟩)

/-- Settings that are valid let a build, whatever comes of it, change no template and no settings file
but one that has the name of an output. The template of the index has another name than the index. -/
theorem build_spares_inputs (valid : plan.settings.defect? = none) (tree : files.IsTree place)
    (rooted : files.find plan.root = .ok (place, .directory))
    (built : build plan files = some (result, later)) :
    ∀ name ∈ plan.settings.inputs,
      name ≠ plan.settings.outputs.sitemap → name ≠ plan.settings.outputs.newsfeed →
      (name ≠ plan.settings.templates.index → name ≠ plan.settings.outputs.index) →
        later.node? (place ++ [name]) = files.node? (place ++ [name]) := by
  intro name _ sitemap newsfeed index
  have reworked := build_reworked (plan.ground valid tree rooted) (isName_outputIn valid)
    (fun kind => .inr ⟨kind, rfl⟩) built
  refine reworked.unchanged ?_ id
  rintro (⟨directory, _, same⟩ | ⟨kind, same⟩)
  · have named : name = plan.settings.outputs.index :=
      List.head_eq_of_cons_eq (List.append_inj' same rfl).2
    by_cases template : name = plan.settings.templates.index
    · exact Settings.index_ne_template valid (named.symm.trans template)
    · exact index template named
  · have named : name = kind.outputIn plan.settings.outputs :=
      List.head_eq_of_cons_eq (List.append_inj' same rfl).2
    cases kind with
    | sitemap => exact sitemap named
    | newsfeed => exact newsfeed named

/-- Settings that are valid although the site map takes the place of a template. -/
def clashing : Settings :=
  { Settings.stock with outputs := { OutputNames.stock with sitemap := ".newsfeed.rss" } }

/-- A root with a template for each output. -/
def threeTemplates : FileSystem :=
  ⟨[], [
    (["site"], .directory),
    (["site", ".index.html"], .file "@(files)\x7b@(filename)\x7d".toUTF8),
    (["site", ".newsfeed.rss"], .file "@(newsname)".toUTF8),
    (["site", ".sitemap.xml"], .file "@(pwd)".toUTF8)]⟩

/-- The other templates are left alone. -/
theorem build_spares_inputs_clashing :
    clashing.defect? = none ∧ ∃ result later,
      build ⟨"site", clashing, 0, 100⟩ threeTemplates = some (result, later) ∧
      later.node? ["site", ".index.html"] = threeTemplates.node? ["site", ".index.html"] ∧
      later.node? ["site", ".sitemap.xml"] = threeTemplates.node? ["site", ".sitemap.xml"] := by
  have valid : clashing.defect? = none := by decide +kernel
  have builds : (build ⟨"site", clashing, 0, 100⟩ threeTemplates).isSome = true := by
    decide +kernel
  obtain ⟨⟨result, later⟩, built⟩ := Option.isSome_iff_exists.mp builds
  have spared := build_spares_inputs valid
    (.of_nodes (by decide) (by decide) (by simp [threeTemplates]) ["site"]) rfl built
  exact ⟨valid, _, _, built, spared ".index.html" (by decide) (by decide) (by decide) (by decide),
    spared ".sitemap.xml" (by decide) (by decide) (by decide) (by decide)⟩

end

end SiteIndex.Build

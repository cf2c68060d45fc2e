import SiteIndex.Proofs.Build.Reporting
import SiteIndex.Proofs.Build.Sparing

/-!
What a build tells that succeeds. Its report goes through the directories in pre-order, as they are
listed once the feeds have been opened, and the files that it leaves list them in the same way.
-/

namespace SiteIndex.Build

open SiteIndex.Listing SiteIndex.FileSystem SiteIndex.Template

/-- A path under which there is a text, or nothing. -/
def Readable (files : FileSystem) (path : String) : Prop :=
  ∀ cause, files.readText path = .error cause → cause = .notFound

section
variable {tallies : List (String × Nat × Nat)} {headlines : List (String × String × String)}

end

section
variable {plan : Plan} {place : Location} {files : FileSystem} {base : Arena}

theorem Plan.last_writes {location : Location} (may : plan.Writes place location ∨ False) :
    ∃ output ∈ plan.settings.outputNames, location.getLast? = some output := by
  rcases may.resolve_right id with ⟨directory, _, rfl⟩ | ⟨kind, rfl⟩
  · exact ⟨_, List.mem_cons_self .., List.getLast?_concat ..⟩
  · exact ⟨_, kind.outputIn_mem plan.settings, List.getLast?_concat ..⟩

theorem Plan.spared (plan : Plan) (place : Location) :
    Spared plan.settings place (plan.Writes place) (fun _ => False) where
  named _ may := Plan.last_writes may
  deep location may := by
    rcases may.resolve_right id with ⟨directory, below, rfl⟩ | ⟨kind, rfl⟩
    · have := below.length_le
      simp
      omega
    · simp [Plan.output]

/-- Once the feeds have been opened, indexes are all that may be made. -/
theorem Plan.outputs (plan : Plan) (place : Location) :
    Outputs plan.settings place (plan.Indexes place) (plan.Feeds place) where
  named location may := (plan.spared place).named location (.inl may)
  deep location may := (plan.spared place).deep location (.inl may)
  fresh location := by
    rintro ⟨directory, _, rfl⟩
    exact List.getLast?_concat ..

variable (valid : plan.settings.defect? = none) (apart : plan.settings.Apart)
  (tree : files.IsTree place) (rooted : files.find plan.root = .ok (place, .directory))

/-- At work on files on which the feeds are being opened. -/
abbrev Starting (plan : Plan) (place : Location) (files : FileSystem) (base : Arena) : State → Prop :=
  Working plan place (plan.Writes place) (fun _ => False) files none base

include valid apart tree rooted

/-- While the feeds are being opened, a template is read as if nothing had been written yet. -/
theorem Working.readTemplate {state : State} (opening : Starting plan place files base state)
    {name : String} (within : name ∈ plan.settings.templateNames) :
    state.files.readText (Path.join plan.root name) =
      files.readText (Path.join plan.root name) := by
  have input : name ∈ plan.settings.inputs := List.mem_append_left _ within
  exact readText_root_steady opening.reworked (plan.spared place) tree rooted
    (Settings.isName_input valid input) fun output => apart.inputs name output input

end

end SiteIndex.Build

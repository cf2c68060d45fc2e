import SiteIndex.Proofs.Build.Tour
import SiteIndex.Proofs.Listing.Account

/-!
What the report of a build tells. Templates add to the diagnostics alone; each directory that is written
adds what a walk tells of it, whatever its templates do.
-/

namespace SiteIndex.Build

open SiteIndex.Listing SiteIndex.FileSystem SiteIndex.Template

/-- The ways to the directories, and how many directories and files each lists. -/
def Report.tallies (report : Report) : List (String × Nat × Nat) :=
  report.directories.toList.map fun entry => (entry.path, entry.directories, entry.files)

def Report.headlines (report : Report) : List (String × String × String) :=
  report.news.toList.map fun entry => (entry.path, entry.date, entry.title)

theorem Report.addDiagnostics_frame (report : Report) (template : String)
    (diagnostics : Array Diagnostic) :
    (report.addDiagnostics template diagnostics).directories = report.directories ∧
      (report.addDiagnostics template diagnostics).news = report.news := by
  obtain ⟨directories, news, _⟩ :=
    Report.frame_of_shown (report.shown_addDiagnostics template diagnostics)
  exact ⟨directories, news⟩

/-- The report tells this of the directories, and these news. -/
def Tells (tallies : List (String × Nat × Nat)) (headlines : List (String × String × String))
    (state : State) : Prop :=
  state.report.tallies = tallies ∧ state.report.headlines = headlines

section
variable {tallies : List (String × Nat × Nat)} {headlines : List (String × String × String)}
  {state : State}

theorem Tells.of_report (tells : Tells tallies headlines state) {later : State}
    (directories : later.report.directories = state.report.directories)
    (news : later.report.news = state.report.news) : Tells tallies headlines later := by
  unfold Tells Report.tallies Report.headlines
  rw [directories, news]
  exact tells

theorem Tells.addDiagnostics (tells : Tells tallies headlines state) {later : State}
    {template : String} {diagnostics : Array Diagnostic}
    (same : later.report = state.report.addDiagnostics template diagnostics) :
    Tells tallies headlines later := by
  obtain ⟨directories, news⟩ := state.report.addDiagnostics_frame template diagnostics
  exact tells.of_report (by rw [same, directories]) (by rw [same, news])

section
variable {plan : Plan} {place : Location} {made filled : Location → Prop} {origin : FileSystem}
  {base : Arena} {trail : List String}
  (ground : Ground plan place made filled origin)
  (found : origin.find (pathOf plan.root trail) = .ok (place ++ trail, .directory))
include ground found

variable (outputs : Outputs plan.settings place made filled) (apart : plan.settings.Apart)
include outputs apart

variable (valid : plan.settings.defect? = none)
include valid

end
end

end SiteIndex.Build

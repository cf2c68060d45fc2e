import SiteIndex.Listing.Arena
import SiteIndex.Settings.Loading
import SiteIndex.Template.Diagnostic

/-!
What building a site has brought about, and what can keep it from being built. Anomalies of templates
are part of the report; each is named once.
-/

namespace SiteIndex.Build

open SiteIndex.Listing

structure DirectoryReport where
  /-- The way from the root, `a/b/`; empty for the root. -/
  path : String
  directories : Nat
  files : Nat
  /-- Whether an index was written into this directory. -/
  index : Bool
  deriving DecidableEq, Repr

structure NewsReport where
  /-- The way from the root to the file announced. -/
  path : String
  date : String
  title : String
  deriving DecidableEq, Repr

structure TemplateDiagnostic where
  template : String
  message : String
  deriving DecidableEq, Repr

structure Report where
  /-- Parents before children. -/
  directories : Array DirectoryReport
  news : Array NewsReport
  /-- The paths of the site map and the news feed. -/
  outputs : Array String
  diagnostics : Array TemplateDiagnostic

def Report.empty : Report :=
  ⟨#[], #[], #[], #[]⟩

/-- Adds a diagnostic unless the report has it already. -/
def Report.addDiagnostic (report : Report) (diagnostic : TemplateDiagnostic) : Report :=
  if diagnostic ∈ report.diagnostics then report
  else { report with diagnostics := report.diagnostics.push diagnostic }

def Report.addDiagnostics (report : Report) (template : String)
    (diagnostics : Array Template.Diagnostic) : Report :=
  diagnostics.foldl (fun report diagnostic =>
    report.addDiagnostic ⟨template, diagnostic.message⟩) report

inductive BuildError where
  | inaccessible (path : String) (cause : FileError)
  | settings (cause : Settings.LoadError)
  | listing (cause : ListingError)
  | noTemplates (root : String) (names : TemplateNames)
  deriving DecidableEq, Repr

def BuildError.message : BuildError → String
  | inaccessible path cause => "IO error on " ++ path ++ ": " ++ cause.message
  | settings cause => "Config error: " ++ cause.message
  | listing cause => "Directory error: " ++ cause.message
  | noTemplates root names =>
      "no templates in " ++ root ++ "; create at least one of " ++ names.index ++ ", " ++
        names.sitemap ++ " or " ++ names.newsfeed

end SiteIndex.Build

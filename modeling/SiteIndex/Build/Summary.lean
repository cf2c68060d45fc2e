import SiteIndex.Build.Report
import SiteIndex.Text.Outline

/-!
A finished build in lines of text: a line for every directory, then the news, the anomalies of the
templates, and what was written.
-/

namespace SiteIndex.Build

open SiteIndex.Text

def directoryLine (indexName : String) (directory : DirectoryReport) : String :=
  let target := if directory.index then " → " ++ directory.path ++ indexName else ""
  indentation (wayDepth directory.path) ++ shownWay directory.path ++ target ++ " " ++
    entryCounts directory.directories directory.files

def newsLine (item : NewsReport) : String :=
  "    " ++ item.date ++ " " ++ item.path ++ ": " ++ item.title

def diagnosticLine (diagnostic : TemplateDiagnostic) : String :=
  "    " ++ diagnostic.template ++ ": " ++ diagnostic.message

/-- Lines under a title, after an empty line; nothing if there are none. -/
def titled (title : String) (lines : List String) : List String :=
  if lines.isEmpty then [] else "" :: title :: lines

def Report.summary (report : Report) (indexName : String) : List String :=
  let outputs := report.outputs.toList.map fun path => (Path.fileName? path).getD path
  let indexes := report.directories.toList.countP DirectoryReport.index
  report.directories.toList.map (directoryLine indexName) ++
    titled "News" (report.news.toList.map newsLine) ++
    titled "Diagnostics" (report.diagnostics.toList.map diagnosticLine) ++
    "" :: (if outputs.isEmpty then [] else ["Wrote " ++ ", ".intercalate outputs]) ++
    ["Generated " ++ counted indexes "index" "indexes" ++ ", " ++
      counted report.news.size "news item" "news items"]

end SiteIndex.Build

import SiteIndex.Survey.Report
import SiteIndex.Text.Outline

/-!
A survey in lines of text: the templates, the directories as a tree with their entries numbered in the
order of the cursor, and the news.
-/

namespace SiteIndex.Survey

open SiteIndex.Text

/-- The most characters of a description that are shown. -/
def descriptionWidth : Nat := 60

def templateLines (status : TemplateStatus) : List String :=
  if status.present then
    let sections := if status.sections then " (head, body, tail)" else ""
    ("    " ++ status.template ++ " → " ++ status.output ++ sections) ::
      (status.unknownWidgets.map fun name => "        unknown widget: @(" ++ name ++ ")") ++
      if status.unterminated then ["        unterminated @( copied as text"] else []
  else ["    " ++ status.template ++ " (missing)"]

/-- The lines of an entry that is listed as the one with this number. -/
def entryLines (margin : String) (number : Nat) (entry : ListedEntry) : List String :=
  let head := margin ++ padded 3 number ++ " " ++ entry.name
  let line :=
    if entry.isDirectory then head ++ "/" else head ++ " (" ++ toString entry.sizeKb ++ " KB)"
  let description := cutTo descriptionWidth (trimBlank (entry.description.getD "").toList)
  line :: if description.isEmpty then [] else [margin ++ "    " ++ description]

def directoryLines (directory : ListedDirectory) : List String :=
  let depth := wayDepth directory.path
  let directories := directory.entries.countP ListedEntry.isDirectory
  let files := directory.entries.length - directories
  (indentation depth ++ shownWay directory.path ++ " " ++ entryCounts directories files) ::
    ((directory.entries.zipIdx 1).flatMap fun (entry, number) =>
      entryLines (indentation (depth + 1)) number entry)

def newsLines (item : ListedNews) : List String :=
  ("    " ++ item.date ++ " " ++ item.path ++ ": " ++ item.title) ::
    if item.targetExists then [] else ["        (missing target)"]

def summary (templates : List TemplateStatus) (directories : List ListedDirectory)
    (news : List ListedNews) : List String :=
  "Templates" :: templates.flatMap templateLines ++
    "" :: "Directories" :: directories.flatMap directoryLines ++
    if news.isEmpty then [] else "" :: "News" :: news.flatMap newsLines

def Report.summary (report : Report) : List String :=
  Survey.summary report.templates report.directories.toList report.news.toList

end SiteIndex.Survey

import SiteIndex.Settings.Json
import SiteIndex.Survey.Report

/-!
A survey as a JSON value. Lists that are empty and descriptions that are missing are left out where
they say nothing; a directory has no size.
-/

namespace SiteIndex.Survey

def TemplateStatus.toJson (status : TemplateStatus) : Json :=
  let unknown :=
    if status.unknownWidgets.isEmpty then []
    else [("unknown_widgets", Json.array (status.unknownWidgets.map .string))]
  .object ([
    ("template", .string status.template),
    ("output", .string status.output),
    ("present", .boolean status.present),
    ("sections", .boolean status.sections)] ++ unknown ++
    [("unterminated", .boolean status.unterminated)])

def ListedEntry.toJson (entry : ListedEntry) : Json :=
  let description := (entry.description.map fun text => ("description", Json.string text)).toList
  .object ([
    ("name", .string entry.name),
    ("is_dir", .boolean entry.isDirectory),
    ("size_kb", if entry.isDirectory then .null else .number entry.sizeKb)] ++ description)

def ListedDirectory.toJson (directory : ListedDirectory) : Json :=
  .object [
    ("path", .string directory.path),
    ("entries", .array (directory.entries.map ListedEntry.toJson))]

def ListedNews.toJson (item : ListedNews) : Json :=
  .object [
    ("path", .string item.path),
    ("date", .string item.date),
    ("title", .string item.title),
    ("target_exists", .boolean item.targetExists)]

def Report.toJson (report : Report) : Json :=
  let news :=
    if report.news.isEmpty then []
    else [("news", Json.array (report.news.toList.map ListedNews.toJson))]
  .object ([
    ("templates", .array (report.templates.map TemplateStatus.toJson)),
    ("directories", .array (report.directories.toList.map ListedDirectory.toJson))] ++ news ++
    [("config", report.settings.toJson)])

end SiteIndex.Survey

import SiteIndex.FileSystem.Access
import SiteIndex.Sidecar

/-!
Which entries of a directory are listed. Sidecars, templates, the settings file and the generated
index are not, nor is an entry whose description is there but empty or begins with a blank line.
News sidecars are not listed either, but make news.
-/

namespace SiteIndex

inductive Inclusion where
  | include
  | exclude
  | news
  deriving DecidableEq, Repr

namespace Inclusion

/-- Whether the file at `path` is empty or its first byte ends a line. -/
def startsBlank (files : FileSystem) (path : String) : Except FileError Bool :=
  match files.find path with
  | .error cause => .error cause
  | .ok (_, .file content) =>
      .ok (content.isEmpty || content[0]? == some 0x0a || content[0]? == some 0x0d)
  | .ok (_, .directory) => .error .isDirectory
  | .ok (_, _) => .ok false

def isReserved (settings : Settings) (name : String) : Bool :=
  name == "." || name == ".." || name == settings.outputs.index || name == settingsFile ||
    name == settings.templates.index || name == settings.templates.sitemap ||
    name == settings.templates.newsfeed

/-- What becomes of the entry `name` of `directory`. A description that cannot be read hides
nothing. -/
def classify (files : FileSystem) (settings : Settings) (directory name : String) : Inclusion :=
  let conventions := settings.conventions
  if Sidecar.isDescription conventions name then .exclude
  else if (Sidecar.announced? conventions name).isSome then .news
  else if isReserved settings name then .exclude
  else match startsBlank files (Path.join directory (name ++ conventions.descriptionSuffix)) with
    | .ok true => .exclude
    | .ok false | .error _ => .include

end Inclusion
end SiteIndex

import SiteIndex.FileSystem.Path
import SiteIndex.Settings.Basic

/-!
Sidecars are files that only describe others. By their names: `photo.jpg.d` describes `photo.jpg`,
`photo.jpg.d.jpeg` is its icon, `story.html.news` announces `story.html`, and the first line of
`home.link` is where that entry leads. The suffixes are matters of convention.
-/

namespace SiteIndex.Sidecar

/-- What follows each occurrence of `suffix` in a text. Occurrences are taken from the left and do not
overlap; `inside` characters still belong to the occurrence found last. An empty suffix occurs before
every character and at the end. -/
def restsAfter (suffix : List Char) : (inside : Nat) → List Char → List (List Char)
  | _, [] => if suffix.isEmpty then [[]] else []
  | inside + 1, _ :: rest => restsAfter suffix inside rest
  | 0, c :: rest =>
      if suffix.isPrefixOf (c :: rest) then
        (c :: rest).drop suffix.length :: restsAfter suffix (suffix.length - 1) rest
      else restsAfter suffix 0 rest

/-- A description or an icon: the description suffix occurs at the end of the name or before a dot. -/
def isDescription (conventions : Conventions) (name : String) : Bool :=
  (restsAfter conventions.descriptionSuffix.toList 0 name.toList).any fun rest =>
    rest.isEmpty || rest.head? == some '.'

/-- `name` without `suffix` at its end. -/
def stripSuffix? (suffix name : String) : Option String :=
  let stem := name.toList.take (name.toList.length - suffix.toList.length)
  if stem ++ suffix.toList = name.toList then some (String.ofList stem) else none

/-- The name announced by a news sidecar. -/
def announced? (conventions : Conventions) (name : String) : Option String :=
  (stripSuffix? conventions.newsSuffix name).filter fun target => !target.isEmpty

def isLink (conventions : Conventions) (name : String) : Bool :=
  conventions.linkSuffix.utf8ByteSize < name.utf8ByteSize &&
    (stripSuffix? conventions.linkSuffix name).isSome

/-- The description of an entry: beside a file, inside a directory. -/
def descriptionPath (conventions : Conventions) (directory name : String) (isDirectory : Bool) :
    String :=
  if isDirectory then
    Path.join (Path.join directory name) conventions.directoryDescription
  else Path.join directory (name ++ conventions.descriptionSuffix)

def iconName (conventions : Conventions) (name : String) : String :=
  name ++ conventions.descriptionSuffix ++ conventions.iconSuffix

/-- The icon of entries that have none of their own. -/
def genericIcon (conventions : Conventions) (isDirectory : Bool) : String :=
  (if isDirectory then conventions.directoryIcon else conventions.fileIcon) ++
    conventions.iconSuffix

end SiteIndex.Sidecar

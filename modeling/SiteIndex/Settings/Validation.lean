import SiteIndex.Settings.Basic
import SiteIndex.Text.Quoted

/-!
The conditions that settings have to meet. They are checked one after another, and the first that
fails is the one reported.
-/

namespace SiteIndex.Settings

open SiteIndex.Text

inductive Defect where
  | notPlainName (key value : String)
  | notSuffix (key value : String)
  | noLines
  | sameIndexNames
  deriving DecidableEq, Repr

def Defect.message : Defect → String
  | notPlainName key value => key ++ " must be a plain file name, got " ++ quoted value
  | notSuffix key value => key ++ " must look like \".ext\", got " ++ quoted value
  | noLines => "conventions.max_lines must be at least 1"
  | sameIndexNames => "templates.index and outputs.index must differ"

def hasSlash (value : String) : Bool :=
  value.toList.any fun c => c == '/' || c == '\\'

/-- A name that is not empty and cannot lead into another directory. -/
def isPlainName (value : String) : Bool :=
  !value.isEmpty && !hasSlash value

/-- A dot and at least one more byte, with no slash among them. -/
def isSuffix (value : String) : Bool :=
  2 ≤ value.utf8ByteSize && value.toList.head? == some '.' && !hasSlash value

/-- The settings that must be plain names, with their keys, in the order of checking. -/
def plainNames (settings : Settings) : List (String × String) := [
  ("templates.index", settings.templates.index),
  ("templates.sitemap", settings.templates.sitemap),
  ("templates.newsfeed", settings.templates.newsfeed),
  ("outputs.index", settings.outputs.index),
  ("outputs.sitemap", settings.outputs.sitemap),
  ("outputs.newsfeed", settings.outputs.newsfeed),
  ("conventions.directory_description", settings.conventions.directoryDescription),
  ("conventions.directory_content", settings.conventions.directoryContent),
  ("conventions.directory_icon", settings.conventions.directoryIcon),
  ("conventions.file_icon", settings.conventions.fileIcon)]

def suffixes (settings : Settings) : List (String × String) := [
  ("conventions.description_suffix", settings.conventions.descriptionSuffix),
  ("conventions.news_suffix", settings.conventions.newsSuffix),
  ("conventions.link_suffix", settings.conventions.linkSuffix),
  ("conventions.icon_suffix", settings.conventions.iconSuffix)]

/-- The first condition that the settings fail. -/
def defect? (settings : Settings) : Option Defect :=
  match settings.plainNames.find? fun (_, value) => !isPlainName value with
  | some (key, value) => some (.notPlainName key value)
  | none =>
  match settings.suffixes.find? fun (_, value) => !isSuffix value with
  | some (key, value) => some (.notSuffix key value)
  | none =>
    if settings.conventions.maxLines = 0 then some .noLines
    else if settings.templates.index = settings.outputs.index then some .sameIndexNames
    else none

end SiteIndex.Settings

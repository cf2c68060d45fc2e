import SiteIndex.Settings.Basic
import SiteIndex.Toml.Basic

/-!
Settings as TOML tables. A group of fields is read from a table, where keys that are missing keep
their stock value and unknown keys are refused, or from an array of values in the order of the fields,
which may stop early.
-/

namespace SiteIndex.Settings

/-- The keys of a group in their order, each with the way its value is stored. -/
abbrev Fields (α : Type) : Type :=
  List (String × (Toml → α → Option α))

namespace Fields

variable {α : Type}

def readEntries (fields : Fields α) (start : α) : Toml.Entries → Option α
  | [] => some start
  | (key, value) :: rest => do
      let store ← fields.lookup key
      let changed ← store value start
      readEntries fields changed rest

def readItems : Fields α → (start : α) → List Toml → Option α
  | _, start, [] => some start
  | [], _, _ :: _ => none
  | (_, store) :: fields, start, value :: rest => do
      let changed ← store value start
      readItems fields changed rest

/-- Reads a group; what it does not give stays as in `start`. -/
def read (fields : Fields α) (start : α) : Toml → Option α
  | .table entries => readEntries fields start entries
  | .array items => readItems fields start items
  | _ => none

/-- Stores a string with `put`, or the text of a moment. -/
def text (put : String → α → α) : Toml → α → Option α
  | .string value, start => some (put value start)
  | .moment value, start => some (put value.text start)
  | _, _ => none

/-- Stores a number that is not negative with `put`. -/
def count (put : Nat → α → α) : Toml → α → Option α
  | .integer (.ofNat value), start => some (put value start)
  | _, _ => none

end Fields

def templateFields : Fields TemplateNames := [
  ("index", Fields.text fun value names => { names with index := value }),
  ("sitemap", Fields.text fun value names => { names with sitemap := value }),
  ("newsfeed", Fields.text fun value names => { names with newsfeed := value })]

def outputFields : Fields OutputNames := [
  ("index", Fields.text fun value names => { names with index := value }),
  ("sitemap", Fields.text fun value names => { names with sitemap := value }),
  ("newsfeed", Fields.text fun value names => { names with newsfeed := value })]

def conventionFields : Fields Conventions := [
  ("description_suffix", Fields.text fun value c => { c with descriptionSuffix := value }),
  ("directory_description", Fields.text fun value c => { c with directoryDescription := value }),
  ("directory_content", Fields.text fun value c => { c with directoryContent := value }),
  ("news_suffix", Fields.text fun value c => { c with newsSuffix := value }),
  ("link_suffix", Fields.text fun value c => { c with linkSuffix := value }),
  ("icon_suffix", Fields.text fun value c => { c with iconSuffix := value }),
  ("directory_icon", Fields.text fun value c => { c with directoryIcon := value }),
  ("file_icon", Fields.text fun value c => { c with fileIcon := value }),
  ("max_lines", Fields.count fun value c => { c with maxLines := value })]

def fields : Fields Settings := [
  ("templates", fun value settings =>
    (templateFields.read .stock value).map fun templates => { settings with templates }),
  ("outputs", fun value settings =>
    (outputFields.read .stock value).map fun outputs => { settings with outputs }),
  ("conventions", fun value settings =>
    (conventionFields.read .stock value).map fun conventions => { settings with conventions })]

def ofToml? (value : Toml) : Option Settings :=
  fields.read .stock value

def toToml (settings : Settings) : Toml :=
  let templates := settings.templates
  let outputs := settings.outputs
  let conventions := settings.conventions
  .table [
    ("templates", .table [
      ("index", .string templates.index),
      ("sitemap", .string templates.sitemap),
      ("newsfeed", .string templates.newsfeed)]),
    ("outputs", .table [
      ("index", .string outputs.index),
      ("sitemap", .string outputs.sitemap),
      ("newsfeed", .string outputs.newsfeed)]),
    ("conventions", .table [
      ("description_suffix", .string conventions.descriptionSuffix),
      ("directory_description", .string conventions.directoryDescription),
      ("directory_content", .string conventions.directoryContent),
      ("news_suffix", .string conventions.newsSuffix),
      ("link_suffix", .string conventions.linkSuffix),
      ("icon_suffix", .string conventions.iconSuffix),
      ("directory_icon", .string conventions.directoryIcon),
      ("file_icon", .string conventions.fileIcon),
      ("max_lines", .integer conventions.maxLines)])]

end SiteIndex.Settings

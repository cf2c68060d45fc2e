import SiteIndex.Json
import SiteIndex.Settings.Basic

/-!
Settings as a JSON value, under the keys that the settings file has for them.
-/

namespace SiteIndex

def Settings.toJson (settings : Settings) : Json :=
  let templates := settings.templates
  let outputs := settings.outputs
  let conventions := settings.conventions
  .object [
    ("templates", .object [
      ("index", .string templates.index),
      ("sitemap", .string templates.sitemap),
      ("newsfeed", .string templates.newsfeed)]),
    ("outputs", .object [
      ("index", .string outputs.index),
      ("sitemap", .string outputs.sitemap),
      ("newsfeed", .string outputs.newsfeed)]),
    ("conventions", .object [
      ("description_suffix", .string conventions.descriptionSuffix),
      ("directory_description", .string conventions.directoryDescription),
      ("directory_content", .string conventions.directoryContent),
      ("news_suffix", .string conventions.newsSuffix),
      ("link_suffix", .string conventions.linkSuffix),
      ("icon_suffix", .string conventions.iconSuffix),
      ("directory_icon", .string conventions.directoryIcon),
      ("file_icon", .string conventions.fileIcon),
      ("max_lines", .number conventions.maxLines)])]

end SiteIndex

/-!
A settings file that spells out the stock settings, with a comment for each.
-/

namespace SiteIndex.Settings

def stockFileLines : List String := [
  "# make-index configuration",
  "# ========================",
  "# Place this file in the content root as make-index.toml.",
  "# All settings are optional; the values below are the defaults.",
  "# Unknown keys are an error.",
  "",
  "# ---------------------------------------------------------------------------",
  "# Templates, read from the content root. A missing template turns its output",
  "# off. A template with two lines holding only \"~\" is split into head, body and",
  "# tail; otherwise the whole text is the body.",
  "# ---------------------------------------------------------------------------",
  "[templates]",
  "# Expanded into every directory.",
  "index = \".index.html\"",
  "# Head once, body once per directory, tail once.",
  "sitemap = \".sitemap.xml\"",
  "# Head once, body once per news item, tail once.",
  "newsfeed = \".newsfeed.rss\"",
  "",
  "# ---------------------------------------------------------------------------",
  "# Generated files",
  "# ---------------------------------------------------------------------------",
  "[outputs]",
  "# Written into every directory, and never listed.",
  "index = \"index.html\"",
  "# Written in the content root.",
  "sitemap = \"sitemap.xml\"",
  "newsfeed = \"newsfeed.rss\"",
  "",
  "# ---------------------------------------------------------------------------",
  "# Sidecar conventions",
  "# ---------------------------------------------------------------------------",
  "[conventions]",
  "# <file>.d describes <file>; an empty one (or one starting with a blank line)",
  "# hides <file>. Anything named *.d or *.d.* is never listed.",
  "description_suffix = \".d\"",
  "# Description of a directory, shown by its parent's @(filedesc).",
  "directory_description = \"index.d\"",
  "# Long description of a directory, shown by its own @(content).",
  "directory_content = \"content.d\"",
  "# <file>.news announces <file>: first line YYYY-MM-DD, second line the title.",
  "news_suffix = \".news\"",
  "# <name>.link holds an href on its first line, used by @(filehref).",
  "link_suffix = \".link\"",
  "# <file>.d<icon_suffix> is the icon of <file>; otherwise the generic",
  "# directory_icon or file_icon at the site root is used.",
  "icon_suffix = \".jpeg\"",
  "directory_icon = \"dir\"",
  "file_icon = \"file\"",
  "# Most lines copied from any one sidecar.",
  "max_lines = 512"]

def stockFile : String :=
  String.join (stockFileLines.map (· ++ "\n"))

end SiteIndex.Settings

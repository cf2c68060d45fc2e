/-!
The widgets that a template can invoke and the names they go by. A name resolves only in full and
letter by letter. The table is kept in the order of its names, so that a name is found by halving.
-/

namespace SiteIndex.Template

inductive Widget where
  | content
  | date
  | fileAlt
  | fileDesc
  | fileHref
  | fileIcon
  | fileName
  | files
  | fileSize
  | news
  | newsName
  | now
  | pwd
  | root
  | title
  deriving DecidableEq, Repr

namespace Widget

/-- Every invocation name with its widget, in ascending order of the names. -/
def registry : Array (String × Widget) := #[
  ("content", content),
  ("date", date),
  ("filealt", fileAlt),
  ("filedesc", fileDesc),
  ("filehref", fileHref),
  ("fileicon", fileIcon),
  ("filename", fileName),
  ("files", files),
  ("filesize", fileSize),
  ("htmlcontent", content),
  ("news", news),
  ("newsname", newsName),
  ("now", now),
  ("pwd", pwd),
  ("root", root),
  ("title", title)]

/-- Looks for `name` among the rows from `low` on and below `high`, halving the range. -/
def searchRows (rows : Array (String × Widget)) (name : String) (low high : Nat) :
    Option Widget :=
  if low < high then
    let middle := (low + high) / 2
    match rows[middle]? with
    | none => none
    | some (symbol, widget) =>
        if symbol = name then some widget
        else if symbol < name then searchRows rows name (middle + 1) high
        else searchRows rows name low middle
  else none
termination_by high - low

def ofName? (name : String) : Option Widget :=
  searchRows registry name 0 registry.size

end Widget
end SiteIndex.Template

import SiteIndex.Text.Blank
import SiteIndex.Text.Numeral

/-!
The parts of lines that show a tree of directories: indentation by depth, counts in words, and texts
cut to a length.
-/

namespace SiteIndex.Text

def indentation (depth : Nat) : String :=
  String.ofList (List.replicate (4 * depth) ' ')

/-- The depth of a way from the root such as `a/b/`. -/
def wayDepth (way : String) : Nat :=
  way.toList.count '/'

/-- The root has an empty way and is shown as a slash. -/
def shownWay (way : String) : String :=
  if way.isEmpty then "/" else way

def counted (n : Nat) (one many : String) : String :=
  toString n ++ " " ++ if n = 1 then one else many

/-- The numbers of directories and files in a directory, in parentheses. -/
def entryCounts (directories files : Nat) : String :=
  "(" ++ counted directories "directory" "directories" ++ ", " ++ counted files "file" "files" ++
    ")"

/-- The first `length` characters of a text, and three dots if that is not all of it. -/
def cutTo (length : Nat) (text : List Char) : String :=
  if length < text.length then String.ofList (text.take length) ++ "..." else String.ofList text

end SiteIndex.Text

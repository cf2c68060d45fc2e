/-!
Lines of a text. A line ends with a line feed, which does not belong to it, nor does one carriage
return before the line feed. The last line may lack its end; an empty text has no line.
-/

namespace SiteIndex.Text

/-- The line up to a line feed, less the carriage return that belongs to the line's end. -/
def dropReturn (line : List Char) : List Char :=
  if line.getLast? = some '\r' then line.dropLast else line

/-- The first line and the text after its end. -/
def nextLine? (text : List Char) : Option (List Char × List Char) :=
  match text with
  | [] => none
  | _ :: _ =>
      let line := text.takeWhile (· != '\n')
      match text.dropWhile (· != '\n') with
      | [] => some (line, [])
      | _ :: rest => some (dropReturn line, rest)

def firstLine? (text : List Char) : Option (List Char) :=
  (nextLine? text).map (·.1)

end SiteIndex.Text

/-!
Paths as text: names with slashes between them. Joining and taking apart look at no file.
-/

namespace SiteIndex.Path

/-- The pieces of a text between the characters equal to `separator`; never the empty list. -/
def splitBy (separator : Char) : List Char → List (List Char)
  | [] => [[]]
  | c :: rest =>
      if c = separator then [] :: splitBy separator rest
      else match splitBy separator rest with
        | [] => [[c]]
        | piece :: pieces => (c :: piece) :: pieces

/-- The names between the slashes, empty ones included. -/
def names (path : String) : List String :=
  (splitBy '/' path.toList).map String.ofList

def isAbsolute (path : String) : Bool :=
  path.toList.head? == some '/'

def endsInSlash (path : String) : Bool :=
  path.toList.getLast? == some '/'

/-- The path of `name` seen from `base`. An absolute `name` stands by itself; an empty one leaves a
slash after `base`. -/
def join (base name : String) : String :=
  if isAbsolute name then name
  else if base.isEmpty || endsInSlash base then base ++ name
  else base ++ "/" ++ name

/-- The last name of a path, unless that leads to a parent directory. Empty names and `.` do not
count. -/
def fileName? (path : String) : Option String :=
  match ((names path).filter fun name => name != "" && name != ".").getLast? with
  | some ".." => none
  | last => last

end SiteIndex.Path

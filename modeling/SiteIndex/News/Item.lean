import SiteIndex.FileSystem.Access
import SiteIndex.News.Date
import SiteIndex.Sidecar
import SiteIndex.Text.Line

/-!
News items. A news sidecar announces the file whose name it extends: its first line is the date, its
second line the title, which may be missing.
-/

namespace SiteIndex.News

open SiteIndex.Text

inductive NewsError where
  | unreadable (path : String) (cause : FileError)
  | notNews (name : String)
  deriving DecidableEq, Repr

def NewsError.message : NewsError → String
  | unreadable path cause => "IO error reading " ++ path ++ ": " ++ cause.message
  | notNews name => name ++ " is not a news file"

structure Item where
  /-- The path of the sidecar itself. -/
  sidecar : String
  /-- The name of the file announced. -/
  name : String
  target : String
  date : Date
  title : String
  deriving DecidableEq, Repr

/-- The text of a news sidecar as a date, whether all of it could be read, and a title. -/
def read (text : String) : Date × Bool × String :=
  let (dateLine, rest) := (nextLine? text.toList).getD ([], [])
  let titleLine := (firstLine? rest).getD []
  let (date, complete) := Date.read dateLine
  (date, complete, String.ofList (dropEndWhile (· == '\r') titleLine))

def Item.load (files : FileSystem) (conventions : Conventions) (directory sidecarName : String) :
    Except NewsError Item :=
  match Sidecar.announced? conventions sidecarName with
  | none => .error (.notNews sidecarName)
  | some name =>
      let sidecar := Path.join directory sidecarName
      match files.readText sidecar with
      | .error cause => .error (.unreadable sidecar cause)
      | .ok text =>
          let (date, _, title) := read text
          .ok { sidecar, name, target := Path.join directory name, date, title }

end SiteIndex.News

import SiteIndex.Listing.Arena
import SiteIndex.Settings.Loading

/-!
What a survey of a content tree finds: the state of the templates, the listing of every directory,
and the news.
-/

namespace SiteIndex.Survey

open SiteIndex.Listing

structure TemplateStatus where
  template : String
  output : String
  present : Bool
  /-- Whether it is divided into head, body and tail. -/
  sections : Bool
  unknownWidgets : List String
  unterminated : Bool
  deriving DecidableEq, Repr

structure ListedEntry where
  name : String
  isDirectory : Bool
  sizeKb : Nat
  /-- The first line of the entry's description. -/
  description : Option String
  deriving DecidableEq, Repr

structure ListedDirectory where
  /-- The way from the root, `a/b/`; empty for the root. -/
  path : String
  entries : List ListedEntry
  deriving DecidableEq, Repr

structure ListedNews where
  path : String
  date : String
  title : String
  targetExists : Bool
  deriving DecidableEq, Repr

structure Report where
  templates : List TemplateStatus
  /-- Parents before children, in the order of listing. -/
  directories : Array ListedDirectory
  news : Array ListedNews
  settings : Settings

inductive SurveyError where
  | unreadable (path : String) (cause : FileError)
  | settings (cause : Settings.LoadError)
  | listing (cause : ListingError)
  deriving DecidableEq, Repr

def SurveyError.message : SurveyError → String
  | unreadable path cause => "IO error on " ++ path ++ ": " ++ cause.message
  | settings cause => "Config error: " ++ cause.message
  | listing cause => "Directory error: " ++ cause.message

end SiteIndex.Survey

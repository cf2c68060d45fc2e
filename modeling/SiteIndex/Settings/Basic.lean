/-!
The settings of a site: the names of its templates and outputs, and the conventions by which sidecar
files are recognised. The stock settings are the defaults.
-/

namespace SiteIndex

/-- The file in the content root that settings are read from. -/
def settingsFile : String := "make-index.toml"

/-- Names of template files in the content root. -/
structure TemplateNames where
  index : String
  sitemap : String
  newsfeed : String
  deriving DecidableEq, Repr

/-- Names of the files written: the index into every directory, the others into the root. -/
structure OutputNames where
  index : String
  sitemap : String
  newsfeed : String
  deriving DecidableEq, Repr

structure Conventions where
  descriptionSuffix : String
  directoryDescription : String
  directoryContent : String
  newsSuffix : String
  linkSuffix : String
  iconSuffix : String
  directoryIcon : String
  fileIcon : String
  /-- The most lines that are copied from one sidecar. -/
  maxLines : Nat
  deriving DecidableEq, Repr

structure Settings where
  templates : TemplateNames
  outputs : OutputNames
  conventions : Conventions
  deriving DecidableEq, Repr

def TemplateNames.stock : TemplateNames where
  index := ".index.html"
  sitemap := ".sitemap.xml"
  newsfeed := ".newsfeed.rss"

def OutputNames.stock : OutputNames where
  index := "index.html"
  sitemap := "sitemap.xml"
  newsfeed := "newsfeed.rss"

def Conventions.stock : Conventions where
  descriptionSuffix := ".d"
  directoryDescription := "index.d"
  directoryContent := "content.d"
  newsSuffix := ".news"
  linkSuffix := ".link"
  iconSuffix := ".jpeg"
  directoryIcon := "dir"
  fileIcon := "file"
  maxLines := 512

def Settings.stock : Settings :=
  ⟨.stock, .stock, .stock⟩

end SiteIndex

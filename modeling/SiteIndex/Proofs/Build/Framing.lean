import SiteIndex.Proofs.Build.Drafts
import SiteIndex.Proofs.Build.Telling

/-!
The feeds of a whole build. The head is written when a feed is opened, the bodies on the walk, and the
tail when the feed is finished: what stands in the file is that and nothing else.
-/

namespace SiteIndex.Build

open SiteIndex.Listing SiteIndex.FileSystem SiteIndex.Template

/-- The texts of the templates that can be read. -/
def Plan.sources (plan : Plan) (files : FileSystem) : Sources where
  index := (files.readText (Path.join plan.root plan.settings.templates.index)).toOption
  feed kind :=
    (files.readText (Path.join plan.root (kind.templateIn plan.settings.templates))).toOption

section
variable {plan : Plan} {finds : FileSystem → Prop} {place : Location}
  {made filled : Location → Prop} {files origin : FileSystem} {base : Arena} {kind : FeedKind}
  {source : Option String} {bytes : ByteArray} {state later : State}

section
variable (distinct : plan.settings.outputNames.Nodup)
include distinct

end

/-- The templates have been read so far, and the feeds been opened with empty files. -/
structure Begun (plan : Plan) (place : Location) (index sitemap newsfeed : Option String)
    (state : State) : Prop where
  index : Option.Rel (fun source template => template.rewind = withLayout source .bodyOnly) index
    state.index
  sitemap : Fills plan place .sitemap sitemap (fun _ => 0) .empty state
  newsfeed : Fills plan place .newsfeed newsfeed (fun _ => 0) .empty state
  noted : Noted [] [] state

theorem Noted.aside {done : List (List String)} {pages : List Page} (noted : Noted done pages state)
    (aside : Aside plan place kind state later) : Noted done pages later :=
  noted.silent aside.toSilent

section
variable (valid : plan.settings.defect? = none) (apart : plan.settings.Apart)
  (tree : files.IsTree place) (rooted : files.find plan.root = .ok (place, .directory))
include valid apart tree rooted

end

end

end SiteIndex.Build

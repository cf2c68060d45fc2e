import SiteIndex.Proofs.Build.Framing

/-!
What a build leaves in the files of its feeds: the pages of the directories that it tells of, framed by
a head and a tail where the template is divided.
-/

namespace SiteIndex.Build

open SiteIndex.Listing SiteIndex.FileSystem SiteIndex.Template

section
variable {plan : Plan} {place : Location} {files : FileSystem}

theorem Begun.start (plan : Plan) (place : Location) (files : FileSystem) :
    Begun plan place none none none (State.start files) :=
  ⟨.none, rfl, rfl, rfl, rfl⟩

section
variable (valid : plan.settings.defect? = none) (apart : plan.settings.Apart)
  (tree : files.IsTree place) (rooted : files.find plan.root = .ok (place, .directory))
include valid apart tree rooted

end
end

/-- A root with a directory in it, whose site map has a head and a tail. -/
def mapped : FileSystem :=
  ⟨[], [
    (["site"], .directory),
    (["site", ".sitemap.xml"], .file "<map>\n~\n@(pwd)\x7b/\x7d.\n~\n</map>".toUTF8),
    (["site", ".newsfeed.rss"], .file "@(title)".toUTF8),
    (["site", "a"], .directory),
    (["site", "a", "x"], .file .empty),
    (["site", "a", "x.news"], .file "2024-05-17\nHello\n".toUTF8)]⟩

end SiteIndex.Build

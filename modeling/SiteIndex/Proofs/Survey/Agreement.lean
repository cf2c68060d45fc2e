import SiteIndex.Proofs.Build.Telling
import SiteIndex.Proofs.Listing.Reached
import SiteIndex.Proofs.Survey.Walk

/-!
A build and a survey walk the same tree. A survey of what a build has left tells of the same directories
and the same news as the report of the build, though the build has written files on its way and its
templates have moved the cursors.
-/

namespace SiteIndex

open SiteIndex.Listing SiteIndex.FileSystem

namespace Survey

def Report.tallies (report : Report) : List (String × Nat × Nat) :=
  report.directories.toList.map ListedDirectory.tally

def Report.headlines (report : Report) : List (String × String × String) :=
  report.news.toList.map ListedNews.headline

section
variable {files : FileSystem} {settings : Settings} {root : String} {place : Location}
  (tree : files.IsTree place) (rooted : files.find root = .ok (place, .directory))
include tree rooted

end

section
variable {root : String} {settings : Settings} {now : Int} {fuel : Nat} {place : Location}
  {files later : FileSystem} {report : Build.Report}

end

end Survey
end SiteIndex

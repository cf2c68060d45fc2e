import SiteIndex.Proofs.Listing.Account
import SiteIndex.Proofs.Listing.Preorder
import SiteIndex.Survey.Walk

/-!
The walk of a survey. It comes to the same directories as that of a build over the same files would, and
tells of each what a walk tells.
-/

namespace SiteIndex.Survey

open SiteIndex.Listing SiteIndex.FileSystem

/-- The way to a directory, and how many directories and files it lists. -/
def ListedDirectory.tally (directory : ListedDirectory) : String × Nat × Nat :=
  (directory.path, directory.entries.countP ListedEntry.isDirectory,
    directory.entries.countP fun entry => !entry.isDirectory)

def ListedNews.headline (item : ListedNews) : String × String × String :=
  (item.path, item.date, item.title)

section
variable {files : FileSystem} {settings : Settings} {root : String} {place : Location}
  {base : Arena} {trail : List String}

/-- What the survey tells once it has gone through further directories. -/
structure Further (files : FileSystem) (settings : Settings) (root : String) (place : Location)
    (base : Arena) (visited : List (List String)) (progress later : Progress) : Prop where
  still : later.arena.unmarked = base
  directories : later.directories.toList.map ListedDirectory.tally =
    progress.directories.toList.map ListedDirectory.tally ++
      visited.map (tallyAt files settings root place)
  news : later.news.toList.map ListedNews.headline =
    progress.news.toList.map ListedNews.headline ++
      visited.flatMap (headlinesAt files settings root)

theorem Further.trans {visited visited' : List (List String)} {base' : Arena}
    {progress middle later : Progress}
    (first : Further files settings root place base' visited progress middle)
    (second : Further files settings root place base visited' middle later) :
    Further files settings root place base (visited ++ visited') progress later where
  still := second.still
  directories := by
    rw [second.directories, first.directories, List.map_append, List.append_assoc]
  news := by rw [second.news, first.news, List.flatMap_append, List.append_assoc]

theorem Further.nothing {progress : Progress} {arena : Arena} (still : arena.unmarked = base) :
    Further files settings root place base [] progress { progress with arena } :=
  ⟨still, by simp, by simp⟩

end

end SiteIndex.Survey

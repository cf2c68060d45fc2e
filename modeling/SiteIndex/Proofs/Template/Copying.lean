import SiteIndex.Proofs.FileSystem.Opened
import SiteIndex.Proofs.FileSystem.Paths
import SiteIndex.Proofs.FileSystem.ReadAhead
import SiteIndex.Proofs.Output.Adding
import SiteIndex.Proofs.Template.Answers

/-!
What is copied from a file: what stands in it up to a line feed, or all of it where there are too
few. The file may be the one that the copy is written to. It then grows while it is read, which
makes no difference as long as there are enough line feeds in front; where there are not, the copy
is read and copied again.
-/

namespace SiteIndex.Template

open SiteIndex.Listing SiteIndex.Text

variable {ε σ α : Type} {sink : Sink ε σ} {written : σ → ByteArray} {context : Context}
  {content : ByteArray}

theorem content_of_find {files : FileSystem} {path : String} {location : Location}
    (found : files.find path = .ok (location, .file content)) :
    files.content location = .ok content := by
  cases FileSystem.resolve_reaches (FileSystem.resolve_of_find found) with
  | existing stands _ => exact FileSystem.content_eq_ok_iff.mpr stands

/-- Copying from a file that only grows gathers the first lines of what lies ahead at the start,
and goes on behind that only with what lies ahead at the end. -/
theorem copyFrom_gathers {still : Prop} (lines : Nat) (reader : ReadAhead) {scene : Scene σ}
    (collects : sink.Collects written scene.out) (grows : sink.Grows reader.location scene.out)
    (shows : still → sink.Shows reader.location (· = content) scene.out) {now : ByteArray}
    (holds : (sink.files scene.out).content reader.location = .ok now)
    {rest : List UInt8} (ahead : rest <+: reader.ahead now) (whole : still → rest = reader.ahead now) :
    ∃ out copied last, copyFrom sink lines reader scene = (.ok (), { scene with out }) ∧
      written out = written scene.out ++ copied ∧
      (sink.files out).content reader.location = .ok last ∧ now.data.toList <+: last.data.toList ∧
      ReadAhead.Gathers lines still rest (reader.ahead last) copied.data.toList := by
  -- What is left of `rest` behind each line stays in front of what lies ahead, since the file grows
  -- at its end only.
  induction lines generalizing reader scene now rest with
  | zero =>
      exact ⟨scene.out, .empty, now, rfl, ByteArray.append_empty.symm, holds, List.prefix_refl _,
        .nothing (leadingLines_zero rest)⟩
  | succ lines ih =>
      obtain ⟨line, later, taken, takes⟩ := reader.takeLine_ok now holds
      unfold copyFrom
      rw [Action.files_apply, taken]
      dsimp only
      by_cases none : line.isEmpty = true
      · have empty : line = .empty :=
          ByteArray.size_eq_zero_iff.mp (by simpa [ByteArray.isEmpty] using none)
        rw [takes.ahead_eq_nil (empty ▸ rfl)] at ahead
        have rest_nil : rest = [] := List.prefix_nil.mp ahead
        rw [if_pos none]
        exact ⟨scene.out, .empty, now, rfl, ByteArray.append_empty.symm, holds, List.prefix_refl _,
          .nothing (by rw [rest_nil, leadingLines_nil])⟩
      · obtain ⟨out, accepts, kept, onward⟩ := collects.write line
        have reached : (sink.write line scene.out).2 = out := congrArg Prod.snd accepts
        have wrote : Action.writeBytes sink line scene = (.ok (), { scene with out }) := by
          rw [Action.writeBytes, if_neg none, accepts]
        have place := ReadAhead.location_takeLine taken
        obtain ⟨before, after, holds₁, holds₂, grown⟩ := grows [] line
        cases holds.symm.trans holds₁
        have unchanged (known : still) : after = now := by
          obtain ⟨_, holds₃, rfl⟩ := (shows known).now
          obtain ⟨_, holds₄, rfl⟩ := ((shows known).write line).now
          cases holds.symm.trans holds₃
          cases holds₂.symm.trans holds₄
          rfl
        have left : rest.drop line.data.toList.length <+: later.ahead now :=
          takes.left ▸ ahead.drop line.data.toList.length
        obtain ⟨final, copied, last, ends, gained, holds', further, gathers⟩ :=
          @ih later { scene with out } onward (place ▸ reached ▸ grows.write line)
            (fun known => place ▸ reached ▸ (shows known).write line) after
            (place ▸ reached ▸ holds₂) _ (left.trans (later.ahead_mono grown))
            (fun known => by rw [whole known, takes.left, unchanged known])
        refine ⟨final, line ++ copied, last, ?_, ?_, place ▸ holds', grown.trans further, ?_⟩
        · rw [if_neg none, Action.bind_apply, wrote]
          exact ends
        · rw [gained, kept, ByteArray.append_assoc]
        · rw [ByteArray.data_append, Array.toList_append]
          exact takes.gathers ahead whole (grown.trans further) gathers

/-- To what had been written the part of `content` up to line feed number `lines` has been added,
or all of it where there are fewer. More stands behind that only where there are fewer and not
`still`, and all of it is what the file begins with by then, with no more than `lines` line feeds. -/
structure Copied (sink : Sink ε σ) (written : σ → ByteArray) (lines : Nat) (location : Location)
    (content : ByteArray) (still : Prop) (before out : σ) (part more : ByteArray) : Prop where
  gained : written out = written before ++ part ++ more
  upTo : UpToLineFeed lines content part
  only : still ∨ lines ≤ content.data.toList.count 0x0a → more = .empty
  begins : ∃ last, (sink.files out).content location = .ok last ∧
    content.data.toList <+: last.data.toList ∧ (part ++ more).data.toList <+: last.data.toList
  limited : (part ++ more).data.toList.count 0x0a ≤ lines

/-- The action answers `answer`, and nothing has changed except that the file has been copied. -/
def Copies (sink : Sink ε σ) (written : σ → ByteArray) (lines : Nat) (location : Location)
    (content : ByteArray) (action : Action ε σ α) (answer : α) (scene : Scene σ) : Prop :=
  ∃ out part more, action scene = (.ok answer, { scene with out }) ∧
    Copied sink written lines location content (sink.Shows location (· = content) scene.out)
      scene.out out part more

theorem copyLines_copies {scene : Scene σ} (positive : 0 < context.conventions.maxLines)
    (collects : sink.Collects written scene.out) {path : String} {location : Location}
    (found : (sink.files scene.out).find path = .ok (location, .file content))
    (grows : sink.Grows location scene.out) :
    Copies sink written context.conventions.maxLines location content
      (copyLines sink context path) true scene := by
  obtain ⟨out, copied, last, ends, gained, holds', grown, gathers⟩ :=
    copyFrom_gathers context.conventions.maxLines (.ofLocation location) collects grows id
      (content_of_find found) (List.prefix_refl _) fun _ => rfl
  obtain ⟨more, cut⟩ := gathers.leads
  have copied_eq : copied =
      (leadingLines context.conventions.maxLines content.data.toList).toByteArray ++
        more.toByteArray := by
    apply eq_of_toList_eq
    rw [ByteArray.data_append, Array.toList_append, List.data_toByteArray, List.data_toByteArray]
    exact cut.symm
  refine ⟨out, (leadingLines context.conventions.maxLines content.data.toList).toByteArray,
    more.toByteArray, ?_, ?_, ?_, fun known => ?_, ⟨last, holds', grown, ?_⟩, ?_⟩
  · unfold copyLines
    rw [Action.files_apply, found]
    dsimp only
    rw [Action.bind_apply, ends]
    rfl
  · rw [gained, copied_eq, ByteArray.append_assoc]
  · exact upToLineFeed_of_leadingLines positive (by rw [List.data_toByteArray])
  · rw [gathers.exact known] at cut
    rw [List.append_right_eq_self.mp cut]
    rfl
  · exact copied_eq ▸ gathers.within
  · exact copied_eq ▸ gathers.limited

/-- The file that the long description is copied from. -/
def contentPath (context : Context) (files : FileSystem) (snapshot : Snapshot) : String :=
  match files.find (Path.join snapshot.path context.conventions.directoryContent) with
  | .ok _ => Path.join snapshot.path context.conventions.directoryContent
  | .error _ => Path.join snapshot.path context.conventions.directoryDescription

theorem copyLines_missing {path : String} {scene : Scene σ} {cause : FileError}
    (missing : (sink.files scene.out).find path = .error cause) :
    copyLines sink context path scene = (.ok false, scene) := by
  unfold copyLines
  rw [Action.files_apply, missing]
  rfl

theorem copyLines_unreadable {path : String} {scene : Scene σ} {location : Location} {node : Node}
    {cause : FileError}
    (found : (sink.files scene.out).find path = .ok (location, node))
    (failed : (sink.files scene.out).content location = .error cause) :
    copyLines sink context path scene = (.ok true, scene) := by
  unfold copyLines
  rw [Action.files_apply, found]
  dsimp only
  rw [Action.bind_apply]
  have : copyFrom sink context.conventions.maxLines (.ofLocation location) scene = (.ok (), scene) := by
    cases context.conventions.maxLines with
    | zero => rfl
    | succ lines =>
      unfold copyFrom
      rw [Action.files_apply, ReadAhead.takeLine_ofLocation_error failed]
      rfl
  rw [this]
  rfl

theorem copyLines_opened {path : String} {scene later : Scene σ} {target : Location × Node}
    {opened : Bool}
    (found : (sink.files scene.out).find path = .ok target)
    (ends : copyLines sink context path scene = (.ok opened, later)) : opened = true := by
  unfold copyLines at ends
  rw [Action.files_apply, found] at ends
  dsimp only at ends
  rw [Action.bind_apply] at ends
  split at ends <;> cases ends
  rfl

/-- The long description is copied if it can be opened, and otherwise the short one. -/
theorem answerContent_eq {snapshot : Snapshot} {scene : Scene σ}
    (seen : context.directory.bind scene.arena.get? = some snapshot) :
    answerContent sink context scene =
      (copyLines sink context (contentPath context (sink.files scene.out) snapshot) >>=
        fun _ => pure false) scene := by
  unfold answerContent contentPath
  rw [Action.snapshot_apply, seen]
  dsimp only
  rw [Action.bind_apply]
  cases found : (sink.files scene.out).find
      (Path.join snapshot.path context.conventions.directoryContent) with
  | error cause =>
      rw [copyLines_missing found]
      dsimp only
      rw [if_neg Bool.false_ne_true, Action.discard_eq, bind_assoc]
      rfl
  | ok target =>
      dsimp only
      rw [Action.bind_apply]
      rcases ends : copyLines sink context
          (Path.join snapshot.path context.conventions.directoryContent) scene with
        ⟨failure | opened, later⟩
      · rfl
      · dsimp only
        rw [copyLines_opened found ends, if_pos rfl]

/-- A site with an index in it, and what else there is. -/
def site (index : ByteArray) (others : List (Location × Node)) : FileSystem :=
  ⟨[], (["index.html"], .file index) :: others⟩

/-- The index is being written, and stands in its file as far as it has been. -/
def underWay (index : ByteArray) (others : List (Location × Node)) : Scene FileWriter :=
  ⟨⟨[.empty none none ""]⟩, 0, ⟨site index others, .ofFile ⟨["index.html"], index.size⟩⟩⟩

/-- For the directory with that index, up to so many lines are copied from a file. -/
def copying (lines : Nat) : Context :=
  ⟨{ Conventions.stock with maxLines := lines }, 0, some 0, none⟩

/-- A link makes the index its own long description. -/
def selfDescribed (index : ByteArray) : Scene FileWriter :=
  underWay index [(["content.d"], .link "index.html")]

/-- There is only a short description. -/
def described (index short : ByteArray) : Scene FileWriter :=
  underWay index [(["index.d"], .file short)]

section
variable (index short : ByteArray) (others : List (Location × Node)) (lines : Nat)

theorem underWay_written : (underWay index others).out.Written index :=
  ⟨index, rfl, rfl, ByteArray.append_empty.symm⟩

theorem contentPath_site :
    contentPath (copying lines) (site index others) (.empty none none "") =
      match (site index others).find "content.d" with
      | .ok _ => "content.d"
      | .error _ => "index.d" := by
  have long : Path.join "" "content.d" = "content.d" := by decide +kernel
  have short : Path.join "" "index.d" = "index.d" := by decide +kernel
  change (match (site index others).find (Path.join "" "content.d") with
    | .ok _ => Path.join "" "content.d"
    | .error _ => Path.join "" "index.d") = _
  rw [long, short]

theorem find_content_linked :
    (site index [(["content.d"], .link "index.html")]).find "content.d" =
      .ok (["index.html"], .file index) := by
  have path : FileSystem.IsShortPath "content.d" := by decide +kernel
  have path' : FileSystem.IsShortPath "index.html" := by decide +kernel
  exact path.find_linked path' rfl rfl

theorem find_content_missing :
    (site index [(["index.d"], .file short)]).find "content.d" = .error .notFound := by
  have path : FileSystem.IsShortPath "content.d" := by decide +kernel
  exact path.find_absent rfl

theorem find_description :
    (site index [(["index.d"], .file short)]).find "index.d" = .ok (["index.d"], .file short) := by
  have path : FileSystem.IsShortPath "index.d" := by decide +kernel
  exact path.find_file rfl

theorem contentPath_selfDescribed :
    contentPath (copying lines) (selfDescribed index).out.files (.empty none none "") =
      "content.d" := by
  change contentPath _ (site index _) _ = _
  rw [contentPath_site, find_content_linked]

theorem contentPath_described :
    contentPath (copying lines) (described index short).out.files (.empty none none "") =
      "index.d" := by
  change contentPath _ (site index _) _ = _
  rw [contentPath_site, find_content_missing]

theorem read_description_missing :
    (site index []).read (contentPath (copying lines) (site index []) (.empty none none "")) =
      .error .notFound := by
  have long : FileSystem.IsShortPath "content.d" := by decide +kernel
  have short : FileSystem.IsShortPath "index.d" := by decide +kernel
  have missing : (site index []).find "content.d" = .error .notFound := long.find_absent rfl
  have missing' : (site index []).find "index.d" = .error .notFound := short.find_absent rfl
  rw [contentPath_site, missing]
  dsimp only
  rw [FileSystem.read, missing']
  rfl

end

/-- What is copied is what stands in the file up to line feed number `maxLines`, or all of it where
there are fewer. The long description is copied so, or the short one if the long one cannot be
opened. Writing the copy may add to the end of the file that is copied; it makes no difference if
that has enough line feeds in it, and what comes behind its content if it has not is what has been
added. -/
theorem copies_up_to_line_feed {scene : Scene σ} (positive : 0 < context.conventions.maxLines)
    (collects : sink.Collects written scene.out) :
    (∀ path location content,
      (sink.files scene.out).find path = .ok (location, .file content) →
      sink.Grows location scene.out →
      Copies sink written context.conventions.maxLines location content
        (copyLines sink context path) true scene) ∧
    ∀ snapshot, context.directory.bind scene.arena.get? = some snapshot →
      (∀ location content,
        (sink.files scene.out).find (contentPath context (sink.files scene.out) snapshot) =
          .ok (location, .file content) →
        sink.Grows location scene.out →
        Copies sink written context.conventions.maxLines location content
          (answerContent sink context) false scene) ∧
      ∀ cause,
        (sink.files scene.out).read (contentPath context (sink.files scene.out) snapshot) =
          .error cause →
        answerContent sink context scene = (.ok false, scene) := by
  refine ⟨fun path location content found grows => copyLines_copies positive collects found grows,
    fun snapshot seen => ⟨fun location content found grows => ?_, fun cause failed => ?_⟩⟩
  · obtain ⟨out, part, more, ends, copied⟩ := copyLines_copies positive collects found grows
    refine ⟨out, part, more, ?_, copied⟩
    rw [answerContent_eq seen, Action.bind_apply, ends]
    rfl
  · rw [answerContent_eq seen, Action.bind_apply]
    unfold FileSystem.read at failed
    cases found : (sink.files scene.out).find
        (contentPath context (sink.files scene.out) snapshot) with
    | error cause' =>
        rw [copyLines_missing found]
        rfl
    | ok target =>
        rw [found] at failed
        rw [copyLines_unreadable found failed]
        rfl

theorem copies_up_to_line_feed_underWay :
    (∃ out, answerContent FileWriter.sink (copying 1) (selfDescribed "a\nb".toUTF8) =
        (.ok false, { selfDescribed "a\nb".toUTF8 with out }) ∧
      out.written = "a\nba\n".toUTF8) ∧
    (∃ out, copyLines FileWriter.sink (copying 1) "index.d" (described "a\nb".toUTF8 "c".toUTF8) =
        (.ok true, { described "a\nb".toUTF8 "c".toUTF8 with out }) ∧
      out.written = "a\nbc".toUTF8) ∧
    (∃ out, answerContent FileWriter.sink (copying 1) (described "a\nb".toUTF8 "c".toUTF8) =
        (.ok false, { described "a\nb".toUTF8 "c".toUTF8 with out }) ∧
      out.written = "a\nbc".toUTF8) ∧
    answerContent FileWriter.sink (copying 1) (underWay "a\nb".toUTF8 []) =
      (.ok false, underWay "a\nb".toUTF8 []) := by
  have positive : 0 < (copying 1).conventions.maxLines := Nat.one_pos
  have own : (selfDescribed "a\nb".toUTF8).out.Written "a\nb".toUTF8 := underWay_written _ _
  have wrote : (described "a\nb".toUTF8 "c".toUTF8).out.Written "a\nb".toUTF8 := underWay_written _ _
  have other : ["index.d"] ≠ (described "a\nb".toUTF8 "c".toUTF8).out.out.file.location := by
    decide
  have still := wrote.keeps_others other rfl
  have kept {out : FileWriter} {part more : ByteArray}
      (copied : Copied FileWriter.sink FileWriter.written 1 ["index.d"] "c".toUTF8
        (FileWriter.sink.Shows ["index.d"] (· = "c".toUTF8) (described "a\nb".toUTF8 "c".toUTF8).out)
        (described "a\nb".toUTF8 "c".toUTF8).out out part more) : out.written = "a\nbc".toUTF8 := by
    have all : part = "c".toUTF8 := copied.upTo.few (by decide +kernel)
    rw [copied.gained, wrote.written_eq, all, copied.only (.inl still)]
    decide +kernel
  refine ⟨?_, ?_, ?_, ?_⟩
  · obtain ⟨-, answers⟩ := copies_up_to_line_feed positive own.collects
    obtain ⟨copies, -⟩ := answers _ rfl
    have found := find_content_linked "a\nb".toUTF8
    rw [← contentPath_selfDescribed _ 1] at found
    obtain ⟨out, part, more, ends, copied⟩ := copies _ _ found (own.grows rfl)
    refine ⟨out, ends, ?_⟩
    have first : part = "a\n".toUTF8 :=
      copied.upTo.unique (upToLineFeed_of_leadingLines Nat.one_pos (by decide +kernel))
    rw [copied.gained, own.written_eq, first, copied.only (.inr (by decide +kernel))]
    decide +kernel
  · obtain ⟨copies, -⟩ := copies_up_to_line_feed positive wrote.collects
    obtain ⟨out, part, more, ends, copied⟩ := copies "index.d" _ _ (find_description _ _)
      (wrote.grows rfl)
    exact ⟨out, ends, kept copied⟩
  · obtain ⟨-, answers⟩ := copies_up_to_line_feed positive wrote.collects
    obtain ⟨copies, -⟩ := answers _ rfl
    have found := find_description "a\nb".toUTF8 "c".toUTF8
    rw [← contentPath_described _ "c".toUTF8 1] at found
    obtain ⟨out, part, more, ends, copied⟩ := copies _ _ found (wrote.grows rfl)
    exact ⟨out, ends, kept copied⟩
  · have none := underWay_written "a\nb".toUTF8 []
    obtain ⟨-, answers⟩ := copies_up_to_line_feed positive none.collects
    exact (answers _ rfl).2 _ (read_description_missing "a\nb".toUTF8 1)

/-- A last line that alone would fill the buffer is in the file as soon as it has been copied. If
that is the file it is copied from it is read once more, and so comes as often as there may be
lines. -/
theorem copyFrom_into_itself (lines : Nat) {front last : ByteArray} (unbroken : 0x0a ∉ last.data.toList)
    (large : BufferedFile.capacity ≤ last.size) {place : Location} {scene : Scene FileWriter}
    (settled : FileWriter.Settled place (front ++ last) scene.out) :
    ∃ out all, copyFrom FileWriter.sink lines ⟨place, front.size, .empty, 0⟩ scene =
        (.ok (), { scene with out }) ∧
      FileWriter.Settled place all out ∧ all.size = (front ++ last).size + lines * last.size := by
  induction lines generalizing front scene with
  | zero => exact ⟨scene.out, front ++ last, rfl, settled, by omega⟩
  | succ lines ih =>
      obtain ⟨out, passed, behind⟩ := settled.write large
      have filled : ¬ last.isEmpty = true := by
        intro none
        have empty : last.size = 0 := by simpa [ByteArray.isEmpty] using none
        rw [empty] at large
        cases large
      have wrote : Action.writeBytes FileWriter.sink last scene = (.ok (), { scene with out }) := by
        rw [Action.writeBytes, if_neg filled, passed]
      have taken := ReadAhead.takeLine_rest unbroken (FileSystem.content_eq_ok_iff.mpr settled.holds)
      obtain ⟨final, all, ends, settled', size⟩ := @ih (front ++ last) { scene with out } behind
      refine ⟨final, all, ?_, settled', ?_⟩
      · unfold copyFrom
        rw [Action.files_apply, show FileWriter.sink.files scene.out = scene.out.files from rfl, taken]
        dsimp only
        rw [if_neg filled, Action.bind_apply, wrote]
        exact ends
      · rw [size, ByteArray.size_append, Nat.succ_mul]
        omega

/-- An index that is its own long description, and has no line feed in it, is not copied as it is. -/
theorem own_index_copied_again {index : ByteArray} (unbroken : 0x0a ∉ index.data.toList)
    (large : BufferedFile.capacity ≤ index.size) {lines : Nat} (several : 1 < lines) :
    ∃ out,
      copyLines FileWriter.sink (copying lines) "content.d" (selfDescribed index) =
        (.ok true, { selfDescribed index with out }) ∧
      answerContent FileWriter.sink (copying lines) (selfDescribed index) =
        (.ok false, { selfDescribed index with out }) ∧
      ¬ ∃ part, out.written = (selfDescribed index).out.written ++ part ∧
        UpToLineFeed lines index part := by
  have settled : FileWriter.Settled ["index.html"] (.empty ++ index) (selfDescribed index).out :=
    ByteArray.empty_append.symm ▸ ⟨rfl, rfl⟩
  obtain ⟨out, all, ends, behind, size⟩ := copyFrom_into_itself lines unbroken large settled
  have found : (FileWriter.sink.files (selfDescribed index).out).find "content.d" =
      .ok (["index.html"], .file index) := find_content_linked index
  have copied : copyLines FileWriter.sink (copying lines) "content.d" (selfDescribed index) =
      (.ok true, { selfDescribed index with out }) := by
    unfold copyLines
    rw [Action.files_apply, found]
    dsimp only
    rw [Action.bind_apply]
    have : copyFrom FileWriter.sink (copying lines).conventions.maxLines (.ofLocation ["index.html"])
        (selfDescribed index) = _ := ends
    rw [this]
    rfl
  refine ⟨out, copied, ?_, ?_⟩
  · have seen : (copying lines).directory.bind (selfDescribed index).arena.get? =
        some (.empty none none "") := rfl
    have path : contentPath (copying lines) (FileWriter.sink.files (selfDescribed index).out)
        (.empty none none "") = "content.d" := contentPath_selfDescribed index lines
    rw [answerContent_eq seen, Action.bind_apply, path, copied]
    rfl
  · rintro ⟨part, gained, upTo⟩
    have few : index.data.toList.count 0x0a < lines := by
      rw [List.count_eq_zero.mpr unbroken]
      omega
    rw [behind.written.written_eq, settled.written.written_eq, upTo.few few] at gained
    rw [gained, ByteArray.empty_append, ByteArray.size_append] at size
    have filled : 0 < index.size := Nat.lt_of_lt_of_le (by decide) large
    have once : 1 = lines := Nat.eq_of_mul_eq_mul_right filled (by omega)
    omega

/-- So it is after 8200 letters: they come three times more instead of once. -/
theorem long_line_copied_again :
    ∃ out,
      copyLines FileWriter.sink (copying 3) "content.d" (selfDescribed ⟨Array.replicate 8200 0x71⟩) =
        (.ok true, { selfDescribed ⟨Array.replicate 8200 0x71⟩ with out }) ∧
      answerContent FileWriter.sink (copying 3) (selfDescribed ⟨Array.replicate 8200 0x71⟩) =
        (.ok false, { selfDescribed ⟨Array.replicate 8200 0x71⟩ with out }) ∧
      ¬ ∃ part,
        out.written = (selfDescribed ⟨Array.replicate 8200 0x71⟩).out.written ++ part ∧
        UpToLineFeed 3 ⟨Array.replicate 8200 0x71⟩ part := by
  have unbroken (count : Nat) : 0x0a ∉ (Array.replicate count (0x71 : UInt8)).toList := by
    rw [Array.toList_replicate]
    exact fun within => absurd (List.eq_of_mem_replicate within) (by decide)
  have large : BufferedFile.capacity ≤ (⟨Array.replicate 8200 0x71⟩ : ByteArray).size := by
    rw [show (⟨Array.replicate 8200 0x71⟩ : ByteArray).size = 8200 from Array.size_replicate]
    decide
  exact @own_index_copied_again ⟨Array.replicate 8200 0x71⟩ (unbroken 8200) large 3 (by decide)

end SiteIndex.Template

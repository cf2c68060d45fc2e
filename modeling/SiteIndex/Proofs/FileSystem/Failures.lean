import SiteIndex.Output.FileWriter
import SiteIndex.Proofs.FileSystem.Opened

/-!
How opening and reading files can fail. That there is no text in a file is found only where it is read as
one; and what fails though something is there fails in the same way once other files have been made or
written.
-/

namespace SiteIndex.FileSystem

section
variable {files later : FileSystem} {purpose : Purpose} {path : String} {cause : FileError}

theorem walkNames_legible
    {followLink : Location → List String → Except FileError Target}
    (onward : ∀ here names cause, followLink here names = .error cause → cause ≠ .invalidText)
    {here : Location} {names : List String}
    (failed : files.walkNames purpose followLink here names = .error cause) :
    cause ≠ .invalidText := by
  rw [← walksTo_iff] at failed
  induction names generalizing here with
  | nil => cases failed
  | cons name rest ih =>
    cases failed with
    | stay _ further | up _ further | enter _ _ further => exact ih further
    | link _ _ followed => exact onward _ _ _ followed
    | slashes | long | lost | blocked => decide

theorem walk_legible {links : Nat} {here : Location} {names : List String}
    (failed : files.walk purpose links here names = .error cause) : cause ≠ .invalidText := by
  induction links generalizing here names cause with
  | zero => exact walkNames_legible (fun _ _ _ failed => by cases failed; decide) failed
  | succ links ih => exact walkNames_legible (fun _ _ _ => ih) failed

theorem resolve_legible (failed : files.resolve purpose path = .error cause) :
    cause ≠ .invalidText := by
  unfold resolve at failed
  split at failed
  · cases failed
    decide
  split at failed
  · cases failed
    decide
  split at failed
  · cases failed
    decide
  · exact walk_legible failed

theorem create_legible (failed : files.create path = .error cause) : cause ≠ .invalidText := by
  unfold create at failed
  split at failed <;> cases failed
  · decide
  · next resolved => exact resolve_legible resolved

theorem write_legible {file : OpenFile} {bytes : ByteArray}
    (failed : files.write file bytes = .error cause) : cause ≠ .invalidText := by
  unfold write at failed
  split at failed
  · cases failed
  split at failed <;> cases failed <;> decide

/-- A path that fails though nothing is missing on it goes through directories and links up to where it
fails, and what is in the way there stays in the way. -/
theorem walkNames_fails (grown : files.Grown later)
    {followLink followLink' : Location → List String → Except FileError Target}
    (onward : ∀ here names cause, cause ≠ .notFound → followLink here names = .error cause →
      followLink' here names = .error cause)
    {here : Location} {names : List String} (present : cause ≠ .notFound)
    (failed : files.walkNames purpose followLink here names = .error cause) :
    later.walkNames purpose followLink' here names = .error cause := by
  rw [← walksTo_iff] at failed ⊢
  induction names generalizing here with
  | nil => cases failed
  | cons name rest ih =>
    cases failed with
    | stay stays further => exact .stay stays (ih further)
    | up up further => exact .up up (ih further)
    | slashes moves down create slashes => exact .slashes moves down create slashes
    | long moves down ends long => exact .long moves down ends long
    | enter looks found further => exact .enter looks (grown.extended.2.1 _ found) (ih further)
    | link looks found followed =>
      exact .link looks (grown.extended.2.2 _ _ found) (onward _ _ _ present followed)
    | lost => exact absurd rfl present
    | blocked looks found writable more =>
      obtain ⟨node, stands, writable⟩ := grown.writable found writable
      exact .blocked looks stands writable more

theorem walk_fails (grown : files.Grown later) {links : Nat} {here : Location}
    {names : List String} (present : cause ≠ .notFound)
    (failed : files.walk purpose links here names = .error cause) :
    later.walk purpose links here names = .error cause := by
  induction links generalizing here names cause with
  | zero => exact walkNames_fails grown (fun _ _ _ _ failed => failed) present failed
  | succ links ih => exact walkNames_fails grown (fun _ _ _ => ih) present failed

theorem resolve_fails (grown : files.Grown later) (present : cause ≠ .notFound)
    (failed : files.resolve purpose path = .error cause) :
    later.resolve purpose path = .error cause := by
  unfold resolve at failed ⊢
  split at failed
  · next nul => rw [if_pos nul, failed]
  next whole =>
  rw [if_neg whole]
  split at failed
  · next empty => rw [if_pos empty, failed]
  next nonempty =>
  rw [if_neg nonempty]
  split at failed
  · next long => rw [if_pos long, failed]
  next short =>
  rw [if_neg short, grown.extended.1]
  exact walk_fails grown present failed

theorem find_fails (grown : files.Grown later) (present : cause ≠ .notFound)
    (failed : files.find path = .error cause) : later.find path = .error cause := by
  unfold find at failed
  split at failed <;> cases failed
  · exact absurd rfl present
  · next resolved =>
    unfold find
    rw [resolve_fails grown present resolved]

/-- A path goes on to lead to where it has led. -/
theorem find_grown (grown : files.Grown later) {location : Location} {node : Node}
    (found : files.find path = .ok (location, node)) :
    ∃ node', later.find path = .ok (location, node') := by
  cases resolve_reaches (resolve_of_find found) with
  | directory => exact ⟨.directory, find_extends grown.extended found⟩
  | existing stands writable =>
    obtain ⟨node', stands', writable'⟩ := grown.writable stands writable
    exact ⟨node', find_onto grown.extended stands' writable' (.existing writable)
      (resolve_of_find found)⟩

theorem read_eq (files : FileSystem) (path : String) :
    files.read path =
      match files.find path with
      | .ok (location, _) => files.content location
      | .error cause => .error cause := by
  unfold read
  cases files.find path <;> rfl

theorem readText_eq (files : FileSystem) (path : String) :
    files.readText path =
      match files.read path with
      | .ok bytes =>
          match String.fromUTF8? bytes with
          | some text => .ok text
          | none => .error .invalidText
      | .error cause => .error cause := by
  unfold readText
  cases files.read path <;> rfl

/-- What has been emptied was a file before, which can be read but for not being a text. -/
theorem Creates.illegible {created : String} {location : Location} {node : Node}
    (creates : Creates created location files later)
    (emptied : later.node? location = some (.file .empty))
    (found : files.find path = .ok (location, node)) (present : cause ≠ .notFound)
    (unreadable : files.readText path = .error cause) : cause = .invalidText := by
  rw [readText_eq, read_eq, found] at unreadable
  dsimp only at unreadable
  have turned := (creates.grown []).turned location
  rw [emptied] at turned
  generalize stood : files.node? location = earlier at turned
  cases turned with
  | kept =>
    simp only [content, stood] at unreadable
    cases unreadable
  | filled old =>
    simp only [content, stood] at unreadable
    split at unreadable <;> cases unreadable
    rfl
  | made =>
    simp only [content, stood] at unreadable
    cases unreadable
    exact absurd rfl present

/-- What is there and cannot be read as text stays so while another file is made or emptied. If it is
emptied itself it becomes an empty text. -/
theorem Creates.unreadable {created : String} {location : Location}
    (creates : Creates created location files later) (present : cause ≠ .notFound)
    (unreadable : files.readText path = .error cause) :
    later.readText path = .error cause ∨ cause = .invalidText ∧ later.readText path = .ok "" := by
  cases found : files.find path with
  | error cause' =>
    have same : cause' = cause := by
      rw [readText_eq, read_eq, found] at unreadable
      exact Except.error.inj unreadable
    subst same
    refine .inl ?_
    rw [readText_eq, read_eq, find_fails creates.grown present found]
  | ok target =>
    obtain ⟨place, node⟩ := target
    obtain ⟨node', found'⟩ := find_grown creates.grown found
    have unchanged (same : later.content place = files.content place) :
        later.readText path = .error cause := by
      rw [readText_eq, read_eq, found] at unreadable
      rw [readText_eq, read_eq, found']
      dsimp only at unreadable ⊢
      rw [same, unreadable]
    by_cases here : place = location
    · subst here
      rcases creates.emptied with emptied | ⟨same, _⟩
      · have empty : later.content place = .ok .empty := by simp only [content, emptied]
        refine .inr ⟨creates.illegible emptied found present unreadable, ?_⟩
        rw [readText_eq, read_eq, found']
        dsimp only
        rw [empty]
        rfl
      · exact .inl (unchanged (by rw [same]))
    · exact .inl (unchanged (by simp only [content, creates.others place here]))

end

section
variable {files : FileSystem} {out : BufferedFile} {bytes : ByteArray} {cause : FileError}

theorem flush_legible (failed : (out.flush files).1 = .error cause) : cause ≠ .invalidText := by
  unfold BufferedFile.flush at failed
  split at failed
  · cases failed
  · next refused =>
    cases failed
    exact write_legible refused

theorem take_legible (failed : (out.take bytes files).1 = .error cause) : cause ≠ .invalidText := by
  unfold BufferedFile.take at failed
  split at failed
  · split at failed
    · cases failed
    · next refused =>
      cases failed
      exact write_legible refused
  · cases failed

theorem writer_legible {writer : FileWriter} (failed : (writer.write bytes).1 = .error cause) :
    cause ≠ .invalidText := by
  change (writer.out.write bytes writer.files).1 = .error cause at failed
  unfold BufferedFile.write at failed
  split at failed
  · exact take_legible failed
  · split at failed
    · exact take_legible failed
    · exact flush_legible failed

end
end SiteIndex.FileSystem

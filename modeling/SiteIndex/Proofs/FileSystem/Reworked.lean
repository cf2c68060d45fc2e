import SiteIndex.Proofs.FileSystem.Paths

/-!
Files that have been worked on: in some places files have been made, or got another content, and all else
is as it was. Directories stay, and paths to them lead there as before.
-/

namespace SiteIndex.FileSystem

/-- What may become of what stands at `location`: files may be made where `made` holds, and get another
content there and where `filled` holds. -/
inductive Turned (made filled : Location → Prop) (location : Location) :
    Option Node → Option Node → Prop
  | kept (node : Option Node) : Turned made filled location node node
  | filled (old new : ByteArray) (may : made location ∨ filled location) :
      Turned made filled location (some (.file old)) (some (.file new))
  | made (new : ByteArray) (may : made location) :
      Turned made filled location none (some (.file new))

structure Reworked (place : Location) (made filled : Location → Prop) (files files' : FileSystem) :
    Prop where
  home : files'.workingDirectory = files.workingDirectory
  tree : files.IsTree place → files'.IsTree place
  turned : ∀ location, Turned made filled location (files.node? location) (files'.node? location)

section
variable {place : Location} {made made' filled filled' : Location → Prop}
  {files files' files'' : FileSystem} {location : Location}

theorem Turned.trans {first second third : Option Node}
    (early : Turned made filled location first second)
    (late : Turned made filled location second third) : Turned made filled location first third := by
  cases early with
  | kept => exact late
  | filled old new may =>
      cases late with
      | kept => exact .filled old new may
      | filled _ new => exact .filled old new may
  | made new may =>
      cases late with
      | kept => exact .made new may
      | filled _ new => exact .made new may

theorem Turned.mono {first second : Option Node} (turned : Turned made filled location first second)
    (more : made location → made' location)
    (more' : filled location → made' location ∨ filled' location) :
    Turned made' filled' location first second := by
  cases turned with
  | kept => exact .kept _
  | filled old new may => exact .filled old new (may.elim (fun made => .inl (more made)) more')
  | made new may => exact .made new (more may)

theorem Turned.unchanged {first second : Option Node} (turned : Turned made filled location first second)
    (unmade : ¬ made location) (unfilled : ¬ filled location) : second = first := by
  cases turned with
  | kept => rfl
  | filled old new may => exact absurd may (not_or.mpr ⟨unmade, unfilled⟩)
  | made new may => exact absurd may unmade

namespace Reworked

theorem refl (place : Location) (made filled : Location → Prop) (files : FileSystem) :
    Reworked place made filled files files :=
  ⟨rfl, id, fun _ => .kept _⟩

theorem trans (early : Reworked place made filled files files')
    (late : Reworked place made filled files' files'') : Reworked place made filled files files'' :=
  ⟨late.home.trans early.home, fun tree => late.tree (early.tree tree), fun location =>
    (early.turned location).trans (late.turned location)⟩

theorem mono (reworked : Reworked place made filled files files')
    (more : ∀ location, made location → made' location)
    (more' : ∀ location, filled location → made' location ∨ filled' location) :
    Reworked place made' filled' files files' :=
  ⟨reworked.home, reworked.tree, fun location =>
    (reworked.turned location).mono (more location) (more' location)⟩

theorem unchanged (reworked : Reworked place made filled files files') (unmade : ¬ made location)
    (unfilled : ¬ filled location) : files'.node? location = files.node? location :=
  (reworked.turned location).unchanged unmade unfilled

theorem isFile (reworked : Reworked place made filled files files') {content : ByteArray}
    (file : files.node? location = some (.file content)) :
    ∃ content, files'.node? location = some (.file content) := by
  have turned := reworked.turned location
  rw [file] at turned
  generalize files'.node? location = later at turned
  cases turned with
  | kept => exact ⟨content, rfl⟩
  | filled _ new => exact ⟨new, rfl⟩

theorem extended (reworked : Reworked place made filled files files') : files.Extends files' := by
  refine ⟨reworked.home, fun location stands => ?_, fun location target stands => ?_⟩
  all_goals
    have turned := reworked.turned location
    rw [stands] at turned
    generalize files'.node? location = later at turned
    cases turned
    rfl

/-- No directory has been made, and no link. -/
theorem narrowed (reworked : Reworked place made filled files files') : files'.Extends files := by
  refine ⟨reworked.home.symm, fun location stands => ?_, fun location target stands => ?_⟩
  all_goals
    have turned := reworked.turned location
    rw [stands] at turned
    generalize files.node? location = earlier at turned
    cases turned
    rfl

/-- A file that gets another content. -/
theorem of_rewritten {content old : ByteArray} (rewritten : Rewritten location content files files')
    (holds : files.node? location = some (.file old)) (may : made location ∨ filled location) :
    Reworked place made filled files files' where
  home := by
    have same : files.outline.workingDirectory = files'.outline.workingDirectory :=
      congrArg workingDirectory rewritten.alike.outline
    exact same.symm
  tree tree := tree.of_outline rewritten.alike.outline
  turned other := by
    by_cases here : other = location
    · subst here
      rw [holds, rewritten.holds]
      exact .filled old content may
    · rw [rewritten.alike.shown other here]
      exact .kept _

/-- A file that is made, or emptied if it is there. -/
theorem of_created (tree : files.IsTree place) {directory : Location} {name : String}
    (below : place <+: directory) (named : IsEntryName name)
    (vacant : files.node? (directory ++ [name]) ≠ some .directory) (may : made (directory ++ [name])) :
    Reworked place made filled files (files.put (directory ++ [name]) (.file .empty)) where
  home := rfl
  tree tree := tree.put directory named _
  turned other := by
    rw [node?_put _ _ _ _ (by simp)]
    by_cases here : other = directory ++ [name]
    · rw [if_pos here, here]
      cases stands : files.node? (directory ++ [name]) with
      | none => exact .made _ may
      | some node =>
          rcases tree.plain _ _ (List.prefix_append_of_prefix below) stands with
            rfl | ⟨content, rfl⟩
          · exact absurd stands vacant
          · exact .filled content _ (.inl may)
    · rw [if_neg here]
      exact .kept _

end Reworked

end

end SiteIndex.FileSystem

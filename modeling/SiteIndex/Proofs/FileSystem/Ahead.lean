import SiteIndex.Proofs.FileSystem.Reworked

/-!
Files that are ahead of others: in some places they have already what the others come to have in the end.
What is written to both of them is the same in both from then on, so that in the end nothing is left in
which they differ.
-/

namespace SiteIndex.FileSystem

/-- In `ahead` there is what there is in `files`, but where `veil` holds it may be what there is in
`final`. -/
structure Ahead (place : Location) (veil : Location → Prop) (final files ahead : FileSystem) : Prop where
  reworked : Reworked place veil (fun _ => False) files ahead
  tells : ∀ location, ahead.node? location = files.node? location ∨
    ahead.node? location = final.node? location

namespace Ahead

variable {place : Location} {veil veil' : Location → Prop} {final files files' : FileSystem}
  {location : Location}

theorem arrived (ahead : Ahead place veil final final files') (location : Location) :
    files'.node? location = final.node? location :=
  (ahead.tells location).elim id id

section
variable (ahead : Ahead place veil final files files')
include ahead

theorem shown (unveiled : ¬ veil location) : files'.node? location = files.node? location :=
  ahead.reworked.unchanged unveiled id

/-- What is the same in both needs no veil. -/
theorem narrow (less : ∀ location, veil location →
    veil' location ∨ files'.node? location = files.node? location) :
    Ahead place veil' final files files' where
  reworked :=
    { home := ahead.reworked.home
      tree := ahead.reworked.tree
      turned := fun location => by
        by_cases same : files'.node? location = files.node? location
        · rw [same]
          exact .kept _
        · exact (ahead.reworked.turned location).mono
            (fun veiled => (less location veiled).resolve_right same) False.elim }
  tells := ahead.tells

theorem rewritten {content : ByteArray} {later later' : FileSystem}
    (first : Rewritten location content files later)
    (second : Rewritten location content files' later') : Ahead place veil final later later' where
  reworked :=
    { home := by
        have home : files.outline.workingDirectory = later.outline.workingDirectory :=
          congrArg workingDirectory first.alike.outline
        have home' : files'.outline.workingDirectory = later'.outline.workingDirectory :=
          congrArg workingDirectory second.alike.outline
        exact home'.symm.trans (ahead.reworked.home.trans home)
      tree := fun tree =>
        (ahead.reworked.tree (tree.of_outline first.alike.outline.symm)).of_outline
          second.alike.outline
      turned := fun other => by
        by_cases here : other = location
        · rw [here, first.holds, second.holds]
          exact .kept _
        · rw [← first.alike.shown other here, ← second.alike.shown other here]
          exact ahead.reworked.turned other }
  tells other := by
    by_cases here : other = location
    · exact .inl (by rw [here, first.holds, second.holds])
    · rw [← first.alike.shown other here, ← second.alike.shown other here]
      exact ahead.tells other

section
variable (tree : files.IsTree place) {base : String} {directory : Location}
  (found : files.find base = .ok (directory, .directory)) (below : place <+: directory)
  {name : String} (named : IsEntryName name)
include tree named

theorem created (directory : Location) :
    Ahead place veil final (files.put (directory ++ [name]) (.file .empty))
      (files'.put (directory ++ [name]) (.file .empty)) where
  reworked :=
    { home := ahead.reworked.home
      tree := fun _ => (ahead.reworked.tree tree).put directory named _
      turned := fun other => by
        rw [node?_put _ _ _ _ (by simp), node?_put _ _ _ _ (by simp)]
        by_cases here : other = directory ++ [name]
        · rw [if_pos here, if_pos here]
          exact .kept _
        · rw [if_neg here, if_neg here]
          exact ahead.reworked.turned other }
  tells other := by
    rw [node?_put _ _ _ _ (by simp), node?_put _ _ _ _ (by simp)]
    by_cases here : other = directory ++ [name]
    · exact .inl (by rw [if_pos here, if_pos here])
    · rw [if_neg here, if_neg here]
      exact ahead.tells other

include found below

/-- A file can be created in both or in neither. -/
theorem create_alike :
    (files'.create (Path.join base name)).map (fun _ => ()) =
      (files.create (Path.join base name)).map fun _ => () := by
  have found' := find_extends ahead.reworked.extended found
  have turned := ahead.reworked.turned (directory ++ [name])
  unfold create
  rw [tree.resolve_entry_eq found below named .create,
    (ahead.reworked.tree tree).resolve_entry_eq found' below named .create]
  generalize files.node? (directory ++ [name]) = earlier at turned
  generalize files'.node? (directory ++ [name]) = later at turned
  unfold entryTarget
  by_cases nul : '\x00' ∈ (Path.join base name).toList
  · simp only [if_pos nul]
  by_cases long : pathByteLimit ≤ (Path.join base name).utf8ByteSize
  · simp only [if_neg nul, if_pos long]
  by_cases longName : maxNameBytes < name.utf8ByteSize
  · simp only [if_neg nul, if_neg long, if_pos longName]
  · simp only [if_neg nul, if_neg long, if_neg longName]
    cases turned with
    | kept =>
        cases earlier with
        | none => rfl
        | some node => cases node <;> rfl
    | filled _ _ _ => rfl
    | made _ _ => rfl

theorem create_error {cause : FileError} (failed : files.create (Path.join base name) = .error cause) :
    files'.create (Path.join base name) = .error cause := by
  have alike := ahead.create_alike tree found below named
  rw [failed] at alike
  cases created : files'.create (Path.join base name) with
  | error cause' =>
      rw [created] at alike
      cases alike
      rfl
  | ok created' =>
      rw [created] at alike
      cases alike

theorem create_ok {created : FileSystem × OpenFile}
    (success : files.create (Path.join base name) = .ok created) :
    files'.create (Path.join base name) =
      .ok (files'.put (directory ++ [name]) (.file .empty), ⟨directory ++ [name], 0⟩) := by
  have alike := ahead.create_alike tree found below named
  rw [success] at alike
  cases created' : files'.create (Path.join base name) with
  | error cause =>
      rw [created'] at alike
      cases alike
  | ok pair =>
      rw [((ahead.reworked.tree tree).create_entry (find_extends ahead.reworked.extended found) below
        named created').1]

end

end

end Ahead

end SiteIndex.FileSystem

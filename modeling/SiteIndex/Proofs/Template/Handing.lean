import SiteIndex.Proofs.Template.TwinScenes
import SiteIndex.Proofs.Template.Unwinding

/-!
Templates that are expanded again and again, for one directory after another, and what they hand on to
whatever is expanded next for the same directory. A section that has been expanded to its end starts
over from the same state, so each expansion of it is like the first one.
-/

namespace SiteIndex

open SiteIndex.Listing SiteIndex.Text

namespace Template

/-- The template ready to be expanded where it stands. -/
def refreshed (template : Template) : Template :=
  { template with
    position := template.standing.offset
    rewindPoint := template.standing.offset
    diagnostics := #[] }

/-- The template as the next one to use it finds it. -/
def restored (template : Template) : Template :=
  template.takeDiagnostics.2.rewind

section
variable {ε ω : Type} {host : Host ε ω} {fuel : Nat} {suppressed : Bool}
  {template after : Template} {world later : ω} {ending : Ending}

theorem restored_of_expand (outermost : template.depth = 0)
    (ended : template.expand host fuel suppressed world = some (.ok ending, after, later)) :
    after.restored = template.refreshed := by
  obtain ⟨_, reached⟩ := renderUpcoming_of_expand host ended
  rw [(reached ending rfl).2]
  simp only [restored, refreshed, takeDiagnostics, rewind, arrived, if_pos outermost]

theorem frame_of_expand
    (ended : template.expand host fuel suppressed world = some (.ok ending, after, later)) :
    after.source = template.source ∧ after.layout = template.layout ∧
      after.depth = template.depth ∧ after.position = template.upcoming.2.offset := by
  obtain ⟨_, reached⟩ := renderUpcoming_of_expand host ended
  rw [(reached ending rfl).2]
  exact ⟨rfl, rfl, rfl, rfl⟩

end

theorem standing_start {template : Template} (start : template.position = 0) :
    template.standing = Place.start template.source.toList := by
  have first : Place.at? template.source.toList 0 = some (Place.start template.source.toList) :=
    Place.at?_start_skip template.source.toList 0
  unfold standing
  rw [start, first]
  rfl

theorem refreshed_withLayout (source : String) (layout : Layout) :
    (withLayout source layout).refreshed = withLayout source layout := by
  unfold refreshed
  rw [standing_start rfl]
  rfl

/-- A new template, but for the level that failed writes have left it on. -/
def leftOn (source : String) (layout : Layout) (depth : Nat) : Template :=
  { withLayout source layout with depth }

/-- Where the body of a feed begins. -/
def bodyStart (source : String) : Place :=
  match Layout.ofSource source with
  | .bodyOnly => Place.start source.toList
  | .headBodyTail => (Section.read .headBodyTail false (Place.start source.toList)).2

/-- A template that stands where its body begins, outside of everything. -/
structure AtBody (template : Template) : Prop where
  layout : template.layout = .ofSource template.source
  depth : template.depth = 0
  position : template.position = (bodyStart template.source).offset

namespace AtBody

variable {ε ω : Type} {host : Host ε ω} {fuel : Nat} {suppressed : Bool}
  {template after : Template} {world later : ω} {ending : Ending}

theorem of_whole {source : String} (whole : Layout.ofSource source = .bodyOnly) :
    (ofSource source).AtBody := by
  refine ⟨rfl, rfl, ?_⟩
  change 0 = (bodyStart source).offset
  simp only [bodyStart, whole]
  rfl

/-- Behind the head the body begins. -/
theorem of_head {source : String} (divided : Layout.ofSource source = .headBodyTail)
    (ended : (ofSource source).expand host fuel suppressed world =
      some (.ok ending, after, later)) : after.takeDiagnostics.2.AtBody := by
  obtain ⟨text, layout, depth, position⟩ := frame_of_expand ended
  refine ⟨?_, depth, ?_⟩
  · change after.layout = .ofSource after.source
    rw [layout, text]
    rfl
  · change after.position = (bodyStart after.source).offset
    rw [position, text]
    change _ = (bodyStart source).offset
    simp only [bodyStart, divided, upcoming]
    rw [standing_start rfl]
    change (Section.ahead (Layout.ofSource source) 1 (Place.start source.toList)).2.offset = _
    rw [divided]
    rfl

theorem standing (atBody : template.AtBody) : template.standing = bodyStart template.source := by
  obtain ⟨count, begins⟩ : ∃ count, bodyStart template.source =
      (Place.start template.source.toList).skip count := by
    unfold bodyStart
    split
    · exact ⟨0, rfl⟩
    · exact Section.ahead_behind .headBodyTail 1 _
  unfold Template.standing
  rw [atBody.position, begins, Place.at?_start_skip]
  rfl

/-- The body can be expanded any number of times. -/
theorem restored (atBody : template.AtBody)
    (ended : template.expand host fuel suppressed world = some (.ok ending, after, later)) :
    after.restored.AtBody ∧ after.restored.source = template.source := by
  rw [restored_of_expand atBody.depth ended]
  refine ⟨⟨atBody.layout, atBody.depth, ?_⟩, rfl⟩
  change template.standing.offset = (bodyStart template.source).offset
  rw [atBody.standing]

end AtBody

/-- The cursor of the directory that the scene is for, if there is one, is where it may be handed on. -/
def Context.Hands (context : Context) (handed : Cursor → Prop) (arena : Arena) : Prop :=
  ∀ snapshot, context.directory.bind arena.get? = some snapshot → handed snapshot.cursor

/-- Expansions into a file hand the cursor on if it was handed to them. -/
def KeepsCursor (handed : Cursor → Prop) (template : Template) : Prop :=
  ∀ {context : Context} {fuel : Nat} {scene later : Scene FileWriter} {ending : Ending}
    {after : Template}, context.Hands handed scene.arena →
    template.expand (sceneHost FileWriter.sink context) fuel false scene =
      some (.ok ending, after, later) →
    context.Hands handed later.arena

/-- Two texts that move the cursor to the same entry, wherever it is handed to them, if nothing else
tells the one directory from the other. -/
def CursorsMeet (handed : Cursor → Prop) (text text' : String) : Prop :=
  ∀ {root : Location} {hidden : Location → Prop} {context : Context} {fuel fuel' : Nat}
    {scene scene' later later' : Scene FileWriter} {ending ending' : Ending}
    {after after' : Template},
    Scene.Related root hidden context false scene scene' → context.Hands handed scene.arena →
    (withLayout text .bodyOnly).expand (sceneHost FileWriter.sink context) fuel false scene =
      some (.ok ending, after, later) →
    (withLayout text' .bodyOnly).expand (sceneHost FileWriter.sink context) fuel' false scene' =
      some (.ok ending', after', later') →
    (context.directory.bind later.arena.get?).map Snapshot.cursor =
      (context.directory.bind later'.arena.get?).map Snapshot.cursor

/-- One text leaves the cursor at one place, whichever of two related scenes it is expanded in. -/
theorem cursorsMeet_self (handed : Cursor → Prop) (text : String) : CursorsMeet handed text text := by
  intro _ _ context _ _ _ _ later later' _ _ _ _ related _ ended ended'
  obtain ⟨_, _, related'⟩ := expand_related related ended ended'
  cases context.directory with
  | none => rfl
  | some id =>
      have same := congrArg (Option.map Snapshot.cursor) (related'.accordant.get? id)
      rw [Option.map_map, Option.map_map] at same
      exact same

end Template
end SiteIndex

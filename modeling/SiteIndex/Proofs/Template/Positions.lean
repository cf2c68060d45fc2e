import Mathlib
import SiteIndex.Proofs.Template.Located
import SiteIndex.Proofs.Template.SeparatorScan

/-!
The positions of a template. Whatever it is expanded for, and however often, with what is written being
taken or not, it stands at a place of its text and goes back to one. So every search begins where a
character does, no text is cut inside a character, and no byte is looked at that is not there.
-/

namespace SiteIndex.Template

open SiteIndex.Text

/-- The separators are the same by offsets. -/
theorem scanSeparators_eq {text front : List Char} {place : Place} (after : place.After text front)
    (fuel opened : Nat) :
    scanSeparators text fuel opened place.offset = some (separatorsFrom fuel opened place) := by
  induction fuel generalizing opened place front with
  | zero => rw [scanSeparators, separatorsFrom]
  | succ fuel ih =>
      obtain ⟨here, -⟩ := after.afterRun fun c => !isSpecial c
      have upon := comesUpon after
      rw [scanSeparators, separatorsFrom]
      change (nextSpecial place).After text _ at here
      generalize nextSpecial place = next at *
      generalize signAt next = sign at upon ⊢
      cases upon with
      | endOfText none whole => rw [none]
      | special found wide looks =>
          rw [found]
          have plain (opened : Nat) : scanSeparators text fuel opened (next.offset + 1) =
              some (separatorsFrom fuel opened (next.skip 1)) := by
            rw [← wide]
            exact ih (here.skip 1) opened
          cases looks with
          | closing byte =>
              dsimp only
              rw [byte]
              dsimp only
              rw [if_neg fun both => absurd both.1 (by decide), if_pos rfl]
              exact plain (opened - 1)
          | separator byte alone onward =>
              dsimp only
              rw [byte]
              dsimp only
              rw [if_neg fun both => absurd both.1 (by decide), if_neg (by decide), alone]
              by_cases outside : opened = 0
              · rw [if_pos ⟨rfl, outside⟩, if_pos outside, ← onward]
                dsimp only
                rw [ih (here.skip 2) opened, Option.map_some]
              · rw [if_neg fun both => outside both.2, if_neg outside]
                exact plain opened
          | tilde byte beside =>
              dsimp only
              rw [byte]
              dsimp only
              rw [if_neg fun both => absurd both.1 (by decide), if_neg (by decide), beside]
              split <;> exact plain opened
          | ampersat byte unopened =>
              dsimp only
              rw [byte]
              dsimp only
              rw [if_neg fun both => unopened both.2, if_neg (by decide),
                if_neg fun both => absurd both.1 (by decide)]
              exact plain opened
          | invocation byte opening reads =>
              dsimp only
              rw [byte]
              dsimp only
              rw [if_pos ⟨rfl, opening⟩]
              cases reads with
              | unterminated unclosed points => rw [unclosed]
              | invocation closed named braced onward resumes points =>
                  rw [closed]
                  dsimp only
                  split at onward
                  · next hasBody =>
                    rw [if_pos (braced.mpr hasBody), if_pos hasBody, ← onward]
                    exact ih resumes (opened + 1)
                  · next bodiless =>
                    rw [if_neg (mt braced.mp bodiless), if_neg bodiless, ← onward]
                    exact ih resumes opened

section
variable {ε ω : Type} (host : Host ε ω)

/-- The scan from which an expansion starts. -/
def scan (template : Template) (world : ω) : Scan ω :=
  ⟨template.position, template.rewindPoint, template.depth, template.diagnostics, world⟩

/-- The template as a scan leaves it. -/
def resumeAt (template : Template) (scan : Scan ω) : Template where
  source := template.source
  layout := template.layout
  position := scan.position
  rewindPoint := scan.rewindPoint
  depth := scan.depth
  diagnostics := scan.diagnostics

/-- Expands by offsets. There is no answer if one of them is misplaced. -/
def expandByOffsets (fuel : Nat) (suppressed : Bool) (template : Template) (world : ω) :
    Option (Option (Except ε Ending × Template × ω)) :=
  match scanItems host template.source.toList template.layout suppressed fuel template.position
      (template.scan world).enter with
  | .ended ending scan => some (some (.ok ending, template.resumeAt scan, scan.world))
  | .failed failure scan => some (some (.error failure, template.resumeAt scan, scan.world))
  | .unfinished => some none
  | .misplaced => none

end

/-- A template of a text, whatever it has been expanded for, where it has been rewound and its diagnostics
have been taken. An expansion may have failed, and left it inside a body. -/
inductive Reached (source : String) : Template → Prop
  | start (layout : Layout) : Reached source (withLayout source layout)
  | expanded {ε ω : Type} {host : Host ε ω} {fuel : Nat} {suppressed : Bool} {world later : ω}
      {result : Except ε Ending} {template after : Template} (reached : Reached source template)
      (expands : template.expand host fuel suppressed world = some (result, after, later)) :
      Reached source after
  | rewound {template : Template} (reached : Reached source template) :
      Reached source template.rewind
  | relieved {template : Template} (reached : Reached source template) :
      Reached source template.takeDiagnostics.2

/-- The numbers that a template keeps are places of its text, and its diagnostics point at what they tell
of. -/
structure Placed (source : String) (template : Template) : Prop where
  text : template.source = source
  position : Boundary source.toList template.position
  rewindPoint : Boundary source.toList template.rewindPoint
  diagnostics : ∀ diagnostic ∈ template.diagnostics, diagnostic.Points source.toList

namespace Placed

variable {source : String} {template : Template} {ε ω : Type}

theorem start (source : String) (layout : Layout) : (withLayout source layout).Placed source :=
  ⟨rfl, ⟨[], _, rfl, rfl⟩, ⟨[], _, rfl, rfl⟩, fun _ within => nomatch within⟩

/-- An expansion starts at the place that the position stands for. -/
theorem progress (placed : template.Placed source) (world : ω) :
    (template.progress world).Located source.toList ∧
      (template.progress world).scan = template.scan world := by
  obtain ⟨place, front, found, after, offset⟩ := Place.After.of_boundary placed.position
  have here : (template.progress world).place = place := by
    rw [Template.progress, placed.text, found]
    rfl
  refine ⟨⟨⟨front, here ▸ after⟩, placed.rewindPoint, placed.diagnostics⟩, ?_⟩
  rw [Progress.scan, here, offset]
  rfl

theorem resume (placed : template.Placed source) {progress : Progress ω}
    (located : progress.Located source.toList) : (template.resume progress).Placed source := by
  obtain ⟨front, after⟩ := located.place
  exact ⟨placed.text, after.boundary, located.rewindPoint, located.diagnostics⟩

/-- By offsets an expansion is the same, and never misplaced; what it leaves is placed again. -/
theorem expand (placed : template.Placed source) (host : Host ε ω) (fuel : Nat) (suppressed : Bool)
    (world : ω) :
    template.expandByOffsets host fuel suppressed world =
        some (template.expand host fuel suppressed world) ∧
      ∀ result after later,
        template.expand host fuel suppressed world = some (result, after, later) →
        after.Placed source := by
  obtain ⟨located, begun⟩ := placed.progress world
  obtain ⟨front, stands⟩ := located.place
  have pends : Pends source.toList template.position "" (template.progress world).enter.place := by
    have offset : (template.progress world).place.offset = template.position :=
      congrArg Scan.position begun
    rw [enter_place, ← offset]
    exact .of_after stands
  have tallies := (tallyFor host template.layout fuel).items suppressed located.enter pends
  rw [Progress.scan_enter, begun] at tallies
  unfold expandByOffsets Template.expand
  rw [placed.text]
  generalize scanItems host source.toList template.layout suppressed fuel _ _ = scanned at tallies ⊢
  generalize expandItems host template.layout suppressed fuel _ _ = outcome at tallies ⊢
  cases tallies with
  | ended ending left =>
      refine ⟨rfl, ?_⟩
      rintro _ _ _ ⟨⟩
      exact placed.resume left
  | failed failure left =>
      refine ⟨rfl, ?_⟩
      rintro _ _ _ ⟨⟩
      exact placed.resume left
  | unfinished => exact ⟨rfl, nofun⟩

end Placed

theorem Reached.placed {source : String} {template : Template} (reached : Reached source template) :
    template.Placed source := by
  induction reached with
  | start layout => exact .start source layout
  | expanded before expands placed => exact (placed.expand _ _ _ _).2 _ _ _ expands
  | rewound before placed =>
      exact ⟨placed.text, placed.rewindPoint, placed.rewindPoint, placed.diagnostics⟩
  | relieved before placed =>
      exact ⟨placed.text, placed.position, placed.rewindPoint, fun _ within => nomatch within⟩

/-- Wherever a template is left, its position and its rewind point are places of its text, and its
diagnostics point at what they tell of; from there an expansion that goes by offsets is never misplaced,
and is the expansion. Nor is the search for separators misplaced, and it finds all. -/
theorem Reached.offsets_valid {source : String} {template : Template}
    (reached : Reached source template) :
    (template.position ≤ source.utf8ByteSize ∧ Boundary source.toList template.position) ∧
    (template.rewindPoint ≤ source.utf8ByteSize ∧ Boundary source.toList template.rewindPoint) ∧
    (∀ diagnostic ∈ template.diagnostics, diagnostic.Points source.toList) ∧
    (∀ {ε ω : Type} (host : Host ε ω) (fuel : Nat) (suppressed : Bool) (world : ω),
      template.expandByOffsets host fuel suppressed world =
        some (template.expand host fuel suppressed world)) ∧
    ∀ fuel, source.toList.length < fuel →
      scanSeparators source.toList fuel 0 0 = some (separators source) := by
  have placed := reached.placed
  have size := byteSize_eq_utf8ByteSize source
  refine ⟨⟨size ▸ placed.position.le, placed.position⟩,
    ⟨size ▸ placed.rewindPoint.le, placed.rewindPoint⟩, placed.diagnostics,
    fun host fuel suppressed world => (placed.expand host fuel suppressed world).1, ?_⟩
  intro fuel enough
  exact (scanSeparators_eq (.start source.toList) fuel 0).trans
    (congrArg some (separatorsFrom_enough 0 (Place.start source.toList) enough (Nat.lt_succ_self _)))

theorem Reached.offsets_valid_multibyte :
    ∃ template, Reached "ä@(ö)ü@(é" template ∧ template.position = 13 ∧
      Boundary "ä@(ö)ü@(é".toList 13 ∧
      template.diagnostics = #[.unknownSymbol "ö" 2, .unterminatedInvocation 9] ∧
      ∀ diagnostic ∈ template.diagnostics, diagnostic.Points "ä@(ö)ü@(é".toList := by
  have expands : (withLayout "ä@(ö)ü@(é" .bodyOnly).expand (ε := Empty)
      ⟨fun _ world => (.ok (), world), fun _ _ world => (.ok false, world)⟩ 3 false () =
      some (.ok .truncated, ⟨"ä@(ö)ü@(é", .bodyOnly, 13, 0, 0,
        #[.unknownSymbol "ö" 2, .unterminatedInvocation 9]⟩, ()) := by
    cbv
  have reached := Reached.expanded (.start .bodyOnly) expands
  obtain ⟨⟨-, boundary⟩, -, points, -⟩ := reached.offsets_valid
  exact ⟨_, reached, rfl, boundary, rfl, points⟩

end SiteIndex.Template

import SiteIndex.Template.Expansion

/-!
A template is a text with a reading position. Each expansion goes on from that position to the end of
a section; rewinding goes back to where the last outermost expansion began, so that a section can be
expanded any number of times.
-/

namespace SiteIndex

open SiteIndex.Text

structure Template where
  source : String
  layout : Template.Layout
  position : Nat
  rewindPoint : Nat
  depth : Nat
  diagnostics : Array Template.Diagnostic

namespace Template

def withLayout (source : String) (layout : Layout) : Template :=
  ⟨source, layout, 0, 0, 0, #[]⟩

/-- A template whose layout follows from its separators. -/
def ofSource (source : String) : Template :=
  withLayout source (.ofSource source)

def isAtEnd (template : Template) : Bool :=
  template.source.utf8ByteSize ≤ template.position

def rewind (template : Template) : Template :=
  { template with position := template.rewindPoint }

/-- The diagnostics gathered so far, which the template then forgets. -/
def takeDiagnostics (template : Template) : Array Diagnostic × Template :=
  (template.diagnostics, { template with diagnostics := #[] })

/-- The state from which an expansion starts. -/
def progress {ω : Type} (template : Template) (world : ω) : Progress ω where
  place := (Place.at? template.source.toList template.position).getD
    (Place.start template.source.toList).toEnd
  rewindPoint := template.rewindPoint
  depth := template.depth
  diagnostics := template.diagnostics
  world

/-- The template as an expansion leaves it. -/
def resume {ω : Type} (template : Template) (progress : Progress ω) : Template where
  source := template.source
  layout := template.layout
  position := progress.place.offset
  rewindPoint := progress.rewindPoint
  depth := progress.depth
  diagnostics := progress.diagnostics

/-- Expands the section at the current position. A suppressed expansion writes nothing and calls no
widget. There is no answer if `fuel` does not suffice. -/
def expand {ε ω : Type} (host : Host ε ω) (fuel : Nat) (suppressed : Bool) (template : Template)
    (world : ω) : Option (Except ε Ending × Template × ω) :=
  match expandItems host template.layout suppressed fuel "" (template.progress world).enter with
  | .ended ending progress => some (.ok ending, template.resume progress, progress.world)
  | .failed failure progress => some (.error failure, template.resume progress, progress.world)
  | .unfinished => none

end Template
end SiteIndex

import SiteIndex.Template.Expansion
import SiteIndex.Template.Section

/-!
What a section that has been read into a tree amounts to in a host. Rendering follows the tree: there
is no position and no depth to keep, and a body is rendered by the same rules as the section around
it. A widget asks for visible passes over its body as long as it likes; a silent pass, in which
nothing is written and no widget called, comes after them. A loop that exceeds its limit of visible
passes has no result.
-/

namespace SiteIndex.Template

/-- What rendering changes. -/
structure Stage (ω : Type) where
  diagnostics : Array Diagnostic
  world : ω

abbrev Rendered (ε ω : Type) : Type :=
  Option (Except ε Ending × Stage ω)

namespace Stage

variable {ε ω : Type} (host : Host ε ω)

def report (stage : Stage ω) (diagnostic : Diagnostic) : Stage ω :=
  { stage with diagnostics := stage.diagnostics.push diagnostic }

/-- A level past the limit is reported at each pass through it. -/
def reportDepth (stage : Stage ω) (depth : Nat) : Stage ω :=
  if depth ≤ depthLimit then stage else stage.report (.recursionLimit depth)

/-- Writes the text unless the pass is silent, and then does what follows. -/
def write (stage : Stage ω) (silent : Bool) (text : List Char)
    (andThen : Stage ω → Rendered ε ω) : Rendered ε ω :=
  if silent then andThen stage
  else match host.write (String.ofList text).toUTF8 stage.world with
    | (.ok _, world) => andThen { stage with world }
    | (.error failure, world) => some (.error failure, { stage with world })

/-- Asks a widget that is told whether it repeats its body, and then does what follows its answer. -/
def ask (stage : Stage ω) (widget : Widget) (repeating : Bool)
    (andThen : Bool → Stage ω → Rendered ε ω) : Rendered ε ω :=
  match host.call widget repeating stage.world with
  | (.ok again, world) => andThen again { stage with world }
  | (.error failure, world) => some (.error failure, { stage with world })

end Stage

namespace Section

variable {ε ω : Type} (host : Host ε ω)

/-- The passes over the body of a widget, of which `limit` may be visible. -/
def renderPasses (widget : Widget) (pass : (silent : Bool) → Stage ω → Rendered ε ω) :
    (limit : Nat) → (repeating : Bool) → Stage ω → Rendered ε ω
  | limit, repeating, stage =>
      stage.ask host widget repeating fun again stage =>
        if again then
          match limit with
          | 0 => none
          | limit + 1 =>
              match pass false stage with
              | some (.ok .truncated, stage) => some (.ok .truncated, stage)
              | some (.ok _, stage) => renderPasses widget pass limit true stage
              | failed => failed
        else pass true stage

/-- Renders a section, or a body, that lies `depth` levels deep. A loop whose widget is asked first in
`world` makes `limit widget world` visible passes at the most. -/
def render (limit : Widget → ω → Nat) :
    Section → (depth : Nat) → (silent : Bool) → Stage ω → Rendered ε ω
  | endsAt (.unterminated offset rest), _, silent, stage =>
      (stage.report (.unterminatedInvocation offset)).write host silent rest fun stage =>
        some (.ok .truncated, stage)
  | endsAt .cutShort, _, _, stage => some (.ok .truncated, stage)
  | endsAt .separator, _, _, stage => some (.ok .sectionBoundary, stage)
  | endsAt .endOfText, _, _, stage | endsAt .closing, _, _, stage => some (.ok .finished, stage)
  | text content next, depth, silent, stage =>
      stage.write host silent content fun stage => next.render limit depth silent stage
  | call name offset next, depth, silent, stage =>
      match Widget.ofName? name with
      | none =>
          next.render limit depth silent (stage.report (.unknownSymbol name offset))
      | some widget =>
          if silent then next.render limit depth silent stage
          else
            stage.ask host widget false fun _ stage => next.render limit depth silent stage
  | block name offset body next, depth, silent, stage =>
      let pass := fun silent (stage : Stage ω) =>
        body.render limit (depth + 1) silent (stage.reportDepth (depth + 1))
      let rendered := match Widget.ofName? name with
        | none => pass true (stage.report (.unknownSymbol name offset))
        | some widget =>
            if silent then pass true stage
            else renderPasses host widget pass (limit widget stage.world) false stage
      match rendered with
      | some (.ok .truncated, stage) => some (.ok .truncated, stage)
      | some (.ok _, stage) => next.render limit depth silent stage
      | failed => failed

end Section
end SiteIndex.Template

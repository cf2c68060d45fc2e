import SiteIndex.Template.Diagnostic
import SiteIndex.Template.Separators
import SiteIndex.Template.Widget

/-!
Expansion of a template in a single pass over its text. Text is copied out as it is met; a widget is
called as its invocation is met, and a body is gone through once for every time the widget asks for
it and once more in silence, which is what brings the reader past the closing brace. What the bytes
are written to and what a widget does is left to a `Host`, so the rules here speak of the text only.

A widget may ask for its body without end. Every run therefore has an allowance, `fuel`, and one
that uses it up is `unfinished`, which is told apart from every real result.
-/

namespace SiteIndex.Template

open SiteIndex.Text

/-- The surroundings of an expansion, with state in `ω` and failures in `ε`. A failed write or call
leaves a state behind too. -/
structure Host (ε ω : Type) where
  write : ByteArray → ω → Except ε Unit × ω
  /-- Runs a widget, which is told whether it is repeating its body, and answers whether the body
  is to be expanded again. -/
  call : Widget → (repeating : Bool) → ω → Except ε Bool × ω

inductive Ending where
  /-- The end of the text, or the `}` of the body being expanded. -/
  | finished
  | sectionBoundary
  /-- At an `@(` without `)`, from which on the text has been copied as it stands. -/
  | truncated
  deriving DecidableEq, Repr

/-- How far an expansion has come. -/
structure Progress (ω : Type) where
  place : Place
  rewindPoint : Nat
  depth : Nat
  diagnostics : Array Diagnostic
  world : ω

inductive Outcome (ε ω : Type) where
  | ended (ending : Ending) (progress : Progress ω)
  | failed (failure : ε) (progress : Progress ω)
  | unfinished

namespace Progress

variable {ω : Type}

def report (progress : Progress ω) (diagnostic : Diagnostic) : Progress ω :=
  { progress with diagnostics := progress.diagnostics.push diagnostic }

def moveTo (progress : Progress ω) (place : Place) : Progress ω :=
  { progress with place }

/-- One level deeper. The outermost level remembers where it began. -/
def enter (progress : Progress ω) : Progress ω :=
  let depth := progress.depth + 1
  let entered := { progress with
    depth
    rewindPoint := if depth = 1 then progress.place.offset else progress.rewindPoint }
  if depthLimit < depth then entered.report (.recursionLimit depth) else entered

def leave (progress : Progress ω) : Progress ω :=
  { progress with depth := progress.depth - 1 }

end Progress

/-- What a sign does to an expansion `depth` levels deep: a `}` outside every body is text, and so is
a separator inside one or in a template that is not divided. -/
def Sign.acting (layout : Layout) (depth : Nat) : Sign → Sign
  | .closing => if 1 < depth then .closing else .plain
  | .separator => if depth = 1 ∧ layout = .headBodyTail then .separator else .plain
  | sign => sign

section
variable {ε ω : Type} (host : Host ε ω)

/-- Writes text unless it is empty or suppressed, and goes on if that succeeds. -/
@[inline] def emit (suppressed : Bool) (text : String) (progress : Progress ω)
    (goOn : Progress ω → Outcome ε ω) : Outcome ε ω :=
  if suppressed || text.isEmpty then goOn progress
  else match host.write text.toUTF8 progress.world with
    | (.ok _, world) => goOn { progress with world }
    | (.error failure, world) => .failed failure { progress with world }

/-- Asks the widget whether its body is to be expanded. An unknown name, and any widget while output
is suppressed, is not called and asks for nothing. -/
@[inline] def consult (widget : Option Widget) (suppressed repeating : Bool) (progress : Progress ω)
    (goOn : Bool → Progress ω → Outcome ε ω) : Outcome ε ω :=
  match widget with
  | some widget =>
      if suppressed then goOn false progress
      else match host.call widget repeating progress.world with
        | (.ok again, world) => goOn again { progress with world }
        | (.error failure, world) => .failed failure { progress with world }
  | none => goOn false progress

mutual

/-- Expands the items from the current place to the end of the level. `pending` is the text already
passed over but not yet written. -/
def expandItems (layout : Layout) (suppressed : Bool) :
    (fuel : Nat) → (pending : String) → Progress ω → Outcome ε ω
  | 0, _, _ => .unfinished
  | fuel + 1, pending, progress =>
      let text := pending ++ String.ofList (progress.place.run fun c => !isSpecial c)
      let here := nextSpecial progress.place
      match (signAt here).acting layout progress.depth with
      | .plain =>
          expandItems layout suppressed fuel (text ++ String.ofList (here.rest.take 1))
            (progress.moveTo (here.skip 1))
      | .endOfText =>
          emit host suppressed text progress fun progress =>
            .ended .finished (progress.moveTo here).leave
      | .closing =>
          emit host suppressed text progress fun progress =>
            .ended .finished (progress.moveTo (here.skip 1)).leave
      | .separator =>
          emit host suppressed text progress fun progress =>
            .ended .sectionBoundary { progress.moveTo (here.skip 2) with depth := 0 }
      | .unterminated =>
          emit host suppressed text progress fun progress =>
            emit host suppressed (String.ofList here.rest)
                (progress.report (.unterminatedInvocation here.offset)) fun progress =>
              .ended .truncated (progress.moveTo here.toEnd).leave
      | .invocation name hasBody resume =>
          emit host suppressed text progress fun progress =>
            let widget := Widget.ofName? name
            let progress :=
              if widget.isNone then progress.report (.unknownSymbol name here.offset)
              else progress
            if hasBody then
              match expandBody layout suppressed fuel widget false resume progress with
              | .ended .truncated progress => .ended .truncated progress.leave
              | .ended _ progress => expandItems layout suppressed fuel "" progress
              | outcome => outcome
            else
              consult host widget suppressed false progress fun _ progress =>
                expandItems layout suppressed fuel "" (progress.moveTo resume)

/-- Calls the widget and goes through the body at `start`, again and again while the widget asks for
it and in silence when it does not. -/
def expandBody (layout : Layout) (suppressed : Bool) :
    (fuel : Nat) → Option Widget → (repeating : Bool) → (start : Place) → Progress ω →
      Outcome ε ω
  | 0, _, _, _, _ => .unfinished
  | fuel + 1, widget, repeating, start, progress =>
      consult host widget suppressed repeating progress fun again progress =>
        match expandItems layout (suppressed || !again) fuel "" (progress.moveTo start).enter with
        | .ended .truncated progress => .ended .truncated progress
        | .ended ending progress =>
            if again then expandBody layout suppressed fuel widget true start progress
            else .ended ending progress
        | outcome => outcome

end

end
end SiteIndex.Template

import SiteIndex.Proofs.Template.Stepwise
import SiteIndex.Template.Separators
import SiteIndex.Proofs.Text.Cuts

/-!
Templates read by offsets. A reader that goes by numbers looks at the bytes of a text and cuts pieces out of
it. It may not look beyond the text, nor cut it inside a character, nor look for signs from there on; where
it does, it is misplaced, which is told apart from every result.
-/

namespace SiteIndex.Template

open SiteIndex.Text

/-- How far an expansion has come, by offsets. -/
structure Scan (ω : Type) where
  position : Nat
  rewindPoint : Nat
  depth : Nat
  diagnostics : Array Diagnostic
  world : ω

inductive Scanned (ε ω : Type) where
  | ended (ending : Ending) (scan : Scan ω)
  | failed (failure : ε) (scan : Scan ω)
  | unfinished
  /-- An offset was out of range or inside a character. -/
  | misplaced

namespace Scan

variable {ω : Type}

def report (scan : Scan ω) (diagnostic : Diagnostic) : Scan ω :=
  { scan with diagnostics := scan.diagnostics.push diagnostic }

def moveTo (scan : Scan ω) (position : Nat) : Scan ω :=
  { scan with position }

def enter (scan : Scan ω) : Scan ω :=
  let depth := scan.depth + 1
  let entered := { scan with
    depth
    rewindPoint := if depth = 1 then scan.position else scan.rewindPoint }
  if depthLimit < depth then entered.report (.recursionLimit depth) else entered

def leave (scan : Scan ω) : Scan ω :=
  { scan with depth := scan.depth - 1 }

/-- A name that no widget goes by is reported. -/
def noteName (scan : Scan ω) (name : String) (offset : Nat) : Scan ω :=
  if (Widget.ofName? name).isNone then scan.report (.unknownSymbol name offset) else scan

end Scan

/-- Goes on from where a body has ended, unless the text has been cut short in it. -/
def Scanned.unlessTruncated {ε ω : Type} (cut : Scan ω → Scan ω)
    (goOn : Ending → Scan ω → Scanned ε ω) : Scanned ε ω → Scanned ε ω
  | .ended .truncated scan => .ended .truncated (cut scan)
  | .ended ending scan => goOn ending scan
  | .failed failure scan => .failed failure scan
  | .unfinished => .unfinished
  | .misplaced => .misplaced

/-- Whether the tilde at an offset is alone on its line. The byte before it is looked at if there is one, the
byte behind it only if there is one. -/
def standsAlone? (text : List Char) (here : Nat) : Option Bool :=
  if here = 0 then some (byteAt? text (here + 1) == some '\n'.toUInt8)
  else (byteAt? text (here - 1)).map fun before =>
    before == '\n'.toUInt8 && byteAt? text (here + 1) == some '\n'.toUInt8

section
variable {ε ω : Type} (host : Host ε ω) (text : List Char)

/-- Writes what lies between two offsets, unless it is empty or suppressed. -/
def emitSlice (suppressed : Bool) (first last : Nat) (scan : Scan ω)
    (goOn : Scan ω → Scanned ε ω) : Scanned ε ω :=
  if suppressed || last ≤ first then goOn scan
  else match slice? text first last with
    | none => .misplaced
    | some piece => match host.write (String.ofList piece).toUTF8 scan.world with
      | (.ok _, world) => goOn { scan with world }
      | (.error failure, world) => .failed failure { scan with world }

def consultAt (widget : Option Widget) (suppressed repeating : Bool) (scan : Scan ω)
    (goOn : Bool → Scan ω → Scanned ε ω) : Scanned ε ω :=
  match widget with
  | some widget =>
      if suppressed then goOn false scan
      else match host.call widget repeating scan.world with
        | (.ok again, world) => goOn again { scan with world }
        | (.error failure, world) => .failed failure { scan with world }
  | none => goOn false scan

mutual

/-- Expands the items from the current position on. The text from `mark` on has been passed over, but is
not written yet. -/
def scanItems (layout : Layout) (suppressed : Bool) :
    (fuel : Nat) → (mark : Nat) → Scan ω → Scanned ε ω
  | 0, _, _ => .unfinished
  | fuel + 1, mark, scan =>
      match seek? isSpecial text scan.position with
      | none => .misplaced
      | some none =>
          emitSlice host text suppressed mark (byteSize text) scan fun scan =>
            .ended .finished (scan.moveTo (byteSize text)).leave
      | some (some here) =>
          match byteAt? text here with
          | none => .misplaced
          | some byte =>
              if byte = '\x7d'.toUInt8 ∧ 1 < scan.depth then
                emitSlice host text suppressed mark here scan fun scan =>
                  .ended .finished (scan.moveTo (here + 1)).leave
              else if byte = '~'.toUInt8 ∧ scan.depth = 1 ∧ layout = .headBodyTail then
                match standsAlone? text here with
                | none => .misplaced
                | some true =>
                    emitSlice host text suppressed mark here scan fun scan =>
                      .ended .sectionBoundary { scan.moveTo (here + 2) with depth := 0 }
                | some false => scanItems layout suppressed fuel mark (scan.moveTo (here + 1))
              else if byte = '@'.toUInt8 ∧ byteAt? text (here + 1) = some '('.toUInt8 then
                emitSlice host text suppressed mark here scan fun scan =>
                  match seek? (· == ')') text (here + 2) with
                  | none => .misplaced
                  | some none =>
                      emitSlice host text suppressed here (byteSize text)
                          (scan.report (.unterminatedInvocation here)) fun scan =>
                        .ended .truncated (scan.moveTo (byteSize text)).leave
                  | some (some close) =>
                      match slice? text (here + 2) close with
                      | none => .misplaced
                      | some chars =>
                          let name := String.ofList chars
                          let widget := Widget.ofName? name
                          let scan := scan.noteName name here
                          if byteAt? text (close + 1) = some '\x7b'.toUInt8 then
                            (scanBody layout suppressed fuel widget false (close + 2)
                                scan).unlessTruncated Scan.leave fun _ scan =>
                              scanItems layout suppressed fuel scan.position scan
                          else
                            consultAt host widget suppressed false scan fun _ scan =>
                              scanItems layout suppressed fuel (close + 1) (scan.moveTo (close + 1))
              else scanItems layout suppressed fuel mark (scan.moveTo (here + 1))

/-- Calls the widget and goes through the body at `start`, as often as the widget asks for it. -/
def scanBody (layout : Layout) (suppressed : Bool) :
    (fuel : Nat) → Option Widget → (repeating : Bool) → (start : Nat) → Scan ω → Scanned ε ω
  | 0, _, _, _, _ => .unfinished
  | fuel + 1, widget, repeating, start, scan =>
      consultAt host widget suppressed repeating scan fun again scan =>
        (scanItems layout (suppressed || !again) fuel start (scan.moveTo start).enter).unlessTruncated
          id fun ending scan =>
            if again then scanBody layout suppressed fuel widget true start scan
            else .ended ending scan

end

/-- The offsets of the separators from `position` on, `opened` bodies being open there. -/
def scanSeparators : (fuel opened position : Nat) → Option (List Nat)
  | 0, _, _ => some []
  | fuel + 1, opened, position =>
      match seek? isSpecial text position with
      | none => none
      | some none => some []
      | some (some here) =>
          match byteAt? text here with
          | none => none
          | some byte =>
              if byte = '@'.toUInt8 ∧ byteAt? text (here + 1) = some '('.toUInt8 then
                match seek? (· == ')') text (here + 2) with
                | none => none
                | some none => some []
                | some (some close) =>
                    if byteAt? text (close + 1) = some '\x7b'.toUInt8 then
                      scanSeparators fuel (opened + 1) (close + 2)
                    else scanSeparators fuel opened (close + 1)
              else if byte = '\x7d'.toUInt8 then scanSeparators fuel (opened - 1) (here + 1)
              else if byte = '~'.toUInt8 ∧ opened = 0 then
                match standsAlone? text here with
                | none => none
                | some true => (scanSeparators fuel opened (here + 2)).map (here :: ·)
                | some false => scanSeparators fuel opened (here + 1)
              else scanSeparators fuel opened (here + 1)

end
end SiteIndex.Template

import SiteIndex.Template.Sign

/-!
The separators that divide a template into sections: those outside every body. A template with
exactly two of them is read as head, body and tail; any other number leaves it one section in which
separators are text. The search counts open bodies and looks at no widget.
-/

namespace SiteIndex.Template

open SiteIndex.Text

inductive Layout where
  | bodyOnly
  | headBodyTail
  deriving DecidableEq, Repr

/-- The offsets of the separators from `place` on, `opened` bodies being open there. Each step
leaves at least one character behind, so `fuel` beyond their number is never used up. -/
def separatorsFrom : (fuel opened : Nat) → Place → List Nat
  | 0, _, _ => []
  | fuel + 1, opened, place =>
      let here := nextSpecial place
      match signAt here with
      | .endOfText | .unterminated => []
      | .plain => separatorsFrom fuel opened (here.skip 1)
      | .closing => separatorsFrom fuel (opened - 1) (here.skip 1)
      | .separator =>
          if opened = 0 then here.offset :: separatorsFrom fuel opened (here.skip 2)
          else separatorsFrom fuel opened (here.skip 1)
      | .invocation _ hasBody resume =>
          separatorsFrom fuel (if hasBody then opened + 1 else opened) resume

def separators (source : String) : List Nat :=
  let text := source.toList
  separatorsFrom (text.length + 1) 0 (Place.start text)

def Layout.ofSource (source : String) : Layout :=
  if (separators source).length = 2 then .headBodyTail else .bodyOnly

end SiteIndex.Template

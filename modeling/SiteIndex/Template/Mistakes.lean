import SiteIndex.Template.Widget

/-!
The mistakes that can be found in a template without expanding it: names that no widget goes by, and
an `@(` that is never closed. The search runs straight through the text and knows nothing of bodies
or sections.
-/

namespace SiteIndex.Template

structure Mistakes where
  /-- Each name once, in the order of first appearance. -/
  unknownNames : List String
  unterminated : Bool
  deriving DecidableEq, Repr

/-- The names invoked in a text, and whether the search ended at an `@(` that is not closed. -/
def invokedNames : (fuel : Nat) → List Char → List String × Bool
  | 0, _ => ([], false)
  | _, [] => ([], false)
  | fuel + 1, '@' :: '(' :: opened =>
      match opened.dropWhile (· != ')') with
      | [] => ([], true)
      | _ :: rest =>
          let (names, unterminated) := invokedNames fuel rest
          (String.ofList (opened.takeWhile (· != ')')) :: names, unterminated)
  | fuel + 1, _ :: rest => invokedNames fuel rest

/-- Appends `name` unless it is listed already. -/
def listOnce (names : List String) (name : String) : List String :=
  if name ∈ names then names else names ++ [name]

def mistakes (source : String) : Mistakes :=
  let text := source.toList
  let (names, unterminated) := invokedNames (text.length + 1) text
  let unknown := names.filter fun name => (Widget.ofName? name).isNone
  ⟨unknown.foldl listOnce [], unterminated⟩

end SiteIndex.Template

import SiteIndex.Text.Place

/-!
The signs of the template language: `@(name)`, `@(name)` with a body in braces, the `}` that closes
a body, and the separator, a `~` alone on its line. What stands at a place is decided by the text
around that place alone; whether a `}` or a separator has an effect there depends on the reader.
-/

namespace SiteIndex.Template

open SiteIndex.Text

inductive Sign where
  | endOfText
  /-- Text, or a special character that means nothing where it stands. -/
  | plain
  | closing
  | separator
  /-- An invocation, whether a body follows it, and the place after `)` or after the opening
  brace. -/
  | invocation (name : String) (hasBody : Bool) (resume : Place)
  /-- An `@(` with no `)` after it. -/
  | unterminated
  deriving DecidableEq, Repr

def isSpecial (c : Char) : Bool :=
  c == '@' || c == '\x7d' || c == '~'

/-- The characters of an invocation's name: those before the first `)`. -/
def isNameChar (c : Char) : Bool :=
  c != ')'

/-- What stands at `place`, which `@(` has been seen at: the name begins two characters on. -/
def invocationAt (place : Place) : Sign :=
  let opened := place.skip 2
  let name := String.ofList (opened.run isNameChar)
  let closed := opened.afterRun isNameChar
  match closed.rest with
  | [] => .unterminated
  | _ :: '\x7b' :: _ => .invocation name true (closed.skip 2)
  | _ :: _ => .invocation name false (closed.skip 1)

def signAt (place : Place) : Sign :=
  match place.rest with
  | [] => .endOfText
  | '@' :: '(' :: _ => invocationAt place
  | '\x7d' :: _ => .closing
  | '~' :: '\n' :: _ => if place.lineStart then .separator else .plain
  | _ :: _ => .plain

/-- The next place, this one included, with a special character or the end of the text. -/
def nextSpecial (place : Place) : Place :=
  place.afterRun (fun c => !isSpecial c)

end SiteIndex.Template

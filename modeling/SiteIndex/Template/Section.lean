import SiteIndex.Template.Separators

/-!
A section read into a tree, before any widget is known to do anything: spans of text, calls, and calls
with a body. Reading needs no context. An invocation ends at the first `)` and has a body if a brace
opens next to it; a body ends at the first `}` that closes no inner body, or with the text. Outside
every body a `}` is text, and only there a separator ends the section of a divided template.
-/

namespace SiteIndex.Template

open SiteIndex.Text

/-- What brings a section, or a body, to its end. -/
inductive Stop where
  | endOfText
  /-- The `}` that closes the body. -/
  | closing
  | separator
  /-- An `@(` without `)`, which stands `offset` bytes into the text and begins `rest`. -/
  | unterminated (offset : Nat) (rest : List Char)
  /-- The body of the last invocation has come to an `@(` without `)`. -/
  | cutShort
  deriving DecidableEq, Repr

inductive Section where
  | endsAt (stop : Stop)
  | text (content : List Char) (next : Section)
  | call (name : String) (offset : Nat) (next : Section)
  | block (name : String) (offset : Nat) (body next : Section)
  deriving DecidableEq, Repr

namespace Section

def lastStop : Section → Stop
  | endsAt stop => stop
  | text _ next | call _ _ next | block _ _ _ next => next.lastStop

/-- Whether the reading has run into an `@(` without `)`. -/
def isTruncated (part : Section) : Bool :=
  match part.lastStop with
  | .unterminated _ _ | .cutShort => true
  | _ => false

/-- The names invoked, those in bodies included, in the order in which they stand in the text. -/
def names : Section → List String
  | endsAt _ => []
  | text _ next => next.names
  | call name _ next => name :: next.names
  | block name _ body next => name :: body.names ++ next.names

/-- Puts a character of text in front, into the span that stands there. -/
def pushText (c : Char) : Section → Section
  | text content next => text (c :: content) next
  | part => text [c] part

/-- Reads up to the end of the section, or of the body, that `place` lies in, and answers the place
behind it too. Every step leaves a character behind, so `fuel` beyond their number suffices. -/
def readFrom (layout : Layout) : (fuel : Nat) → (inBody : Bool) → Place → Section × Place
  | 0, _, place => (endsAt .endOfText, place)
  | fuel + 1, inBody, place =>
      let literal := fun c =>
        let (part, behind) := readFrom layout fuel inBody (place.skip 1)
        (pushText c part, behind)
      match place.rest with
      | [] => (endsAt .endOfText, place)
      | '@' :: '(' :: opened =>
          let name := opened.takeWhile (· != ')')
          match opened.drop name.length with
          | [] => (endsAt (.unterminated place.offset place.rest), place.skip place.rest.length)
          | _ :: '\x7b' :: _ =>
              let (body, behind) := readFrom layout fuel true (place.skip (name.length + 4))
              if body.isTruncated then
                (block (String.ofList name) place.offset body (endsAt .cutShort), behind)
              else
                let (next, behind) := readFrom layout fuel inBody behind
                (block (String.ofList name) place.offset body next, behind)
          | _ =>
              let (next, behind) := readFrom layout fuel inBody (place.skip (name.length + 3))
              (call (String.ofList name) place.offset next, behind)
      | '\x7d' :: _ => if inBody then (endsAt .closing, place.skip 1) else literal '\x7d'
      | '~' :: '\n' :: _ =>
          if layout = .headBodyTail ∧ !inBody ∧ place.lineStart then
            (endsAt .separator, place.skip 2)
          else literal '~'
      | c :: _ => literal c

/-- The section, or the body, at `place` and the place behind it. -/
def read (layout : Layout) (inBody : Bool) (place : Place) : Section × Place :=
  readFrom layout (place.rest.length + 1) inBody place

end Section
end SiteIndex.Template

import SiteIndex.Text.Numeral

/-!
Readers of TOML text. A reader takes characters off the front of what is left and either answers or
refuses; where one reader refuses, another may be tried on the same text. This module has the parts
that everything else is read with: blanks, ends of lines, comments and runs of digits.
-/

namespace SiteIndex.Toml

open SiteIndex.Text

abbrev Reader (α : Type) : Type :=
  StateT (List Char) Option α

namespace Reader

def refuse {α : Type} : Reader α :=
  fun _ => none

/-- The character that stands next, which is left there. -/
def peek? : Reader (Option Char) := do
  return (← get).head?

def next : Reader Char := do
  match ← get with
  | [] => refuse
  | c :: rest =>
      set rest
      return c

/-- Takes the characters of `text`, if they stand next. -/
def word (text : List Char) : Reader Unit := do
  let rest ← get
  if text.isPrefixOf rest then set (rest.drop text.length) else refuse

def char (c : Char) : Reader Unit :=
  word [c]

/-- Takes the characters of `text` if they stand next, and answers whether they did. -/
def accept (text : List Char) : Reader Bool := do
  let rest ← get
  if text.isPrefixOf rest then
    set (rest.drop text.length)
    return true
  else return false

def run (test : Char → Bool) : Reader (List Char) := do
  let rest ← get
  set (rest.dropWhile test)
  return rest.takeWhile test

/-- Goes on to read with `item` once `taken` have been read, the last of them first. -/
def manyFrom {α : Type} (item : Reader α) :
    (limit : Nat) → (taken : List α) → Reader (List α)
  | 0, taken, rest => some (taken.reverse, rest)
  | limit + 1, taken, rest =>
      match item rest with
      | none => some (taken.reverse, rest)
      | some (value, rest) => manyFrom item limit (value :: taken) rest

/-- Reads with `item` as often as it answers, `limit` times at the most. -/
def many {α : Type} (item : Reader α) (limit : Nat) : Reader (List α) :=
  manyFrom item limit []

/-- Items with `separator` between them; at least one. -/
def separated {α : Type} (item : Reader α) (separator : Reader Unit) (limit : Nat) :
    Reader (List α) := do
  let first ← item
  let others ← many (do separator; item) limit
  return first :: others

def isBlankChar (c : Char) : Bool :=
  c == ' ' || c == '\t'

def blanks : Reader Unit :=
  discard (run isBlankChar)

def newline : Reader Unit :=
  char '\n' <|> word ['\r', '\n']

/-- Characters that can stand in a comment. -/
def isCommentChar (c : Char) : Bool :=
  c == '\t' || (' ' ≤ c && c ≤ '~') || 0x80 ≤ c.toNat

def comment : Reader Unit := do
  char '#'
  discard (run isCommentChar)

def endOfText : Reader Unit := do
  if (← get).isEmpty then return else refuse

/-- What may follow an item up to the end of its line. -/
def lineRest : Reader Unit := do
  blanks
  if (← peek?) == some '#' then comment
  newline <|> endOfText

/-- Blanks, comments and ends of lines, as they may stand between the items of an array. -/
def spread : Reader Unit := do
  blanks
  let line : Reader Unit := do
    if (← peek?) == some '#' then comment
    newline
    blanks
  discard (many line (← get).length)

/-- Digits of which each satisfies `test`, single underscores allowed between them. The underscores
are left out. -/
def digits (test : Char → Bool) : Reader (List Char) := do
  let first ← next
  if !test first then refuse
  let one : Reader Char := do
    discard (accept ['_'])
    let c ← next
    if test c then return c else refuse
  return first :: (← many one (← get).length)

def isDecimal (c : Char) : Bool :=
  '0' ≤ c && c ≤ '9'

/-- Exactly `count` decimal digits, as a number. -/
def fixedDigits (count : Nat) : Reader Nat := do
  let rest ← get
  let taken := rest.take count
  if taken.length < count then refuse
  match readDigits? taken with
  | none => refuse
  | some n =>
      set (rest.drop count)
      return n

end Reader
end SiteIndex.Toml

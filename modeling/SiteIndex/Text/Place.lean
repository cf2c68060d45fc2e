/-!
A place in a text is where a reader stands: how many bytes lie behind it, whether a line starts
there, and the characters still to come. Offsets count bytes of the UTF-8 form, so a place can be
handed out as a number and found again in the same text. An offset inside a character is no place.
-/

namespace SiteIndex.Text

/-- The number of bytes that the characters take in UTF-8. -/
def byteSize (chars : List Char) : Nat :=
  chars.foldr (fun c size => c.utf8Size + size) 0

structure Place where
  offset : Nat
  lineStart : Bool
  rest : List Char
  deriving DecidableEq, Repr

namespace Place

def start (text : List Char) : Place :=
  ⟨0, true, text⟩

/-- Passes over `taken`, the characters that stand next. -/
def past (place : Place) (taken : List Char) : Place where
  offset := place.offset + byteSize taken
  lineStart := (taken.getLast?.map (· == '\n')).getD place.lineStart
  rest := place.rest.drop taken.length

def skip (place : Place) (count : Nat) : Place :=
  place.past (place.rest.take count)

def toEnd (place : Place) : Place :=
  place.past place.rest

/-- The characters from here up to the first that fails `test`. -/
def run (place : Place) (test : Char → Bool) : List Char :=
  place.rest.takeWhile test

def afterRun (place : Place) (test : Char → Bool) : Place :=
  place.past (place.run test)

/-- The place with `target` bytes before it, looked for from one with `offset` bytes before it. -/
def seek (target offset : Nat) (lineStart : Bool) : List Char → Option Place
  | [] => if offset = target then some ⟨offset, lineStart, []⟩ else none
  | c :: rest =>
      if offset = target then some ⟨offset, lineStart, c :: rest⟩
      else if target < offset then none
      else seek target (offset + c.utf8Size) (c == '\n') rest

/-- The place of `text` with `offset` bytes before it, if a character starts or the text ends
there. -/
def at? (text : List Char) (offset : Nat) : Option Place :=
  seek offset 0 true text

end Place
end SiteIndex.Text

import SiteIndex.Toml.Reader

/-!
Strings in TOML text: basic ones in double quotes, with escapes, and literal ones in single quotes,
without; each on one line or, in triple quotes, over several.
-/

namespace SiteIndex.Toml.Reader

/-- Characters that stand for themselves in a string between `quote` and `quote`. -/
def isPlainIn (quote : Char) (c : Char) : Bool :=
  c != quote && (c == '\t' || (' ' ≤ c && c ≤ '~') || 0x80 ≤ c.toNat)

def hexValue? (c : Char) : Option Nat :=
  if '0' ≤ c ∧ c ≤ '9' then some (c.toNat - '0'.toNat)
  else if 'a' ≤ c ∧ c ≤ 'f' then some (c.toNat - 'a'.toNat + 10)
  else if 'A' ≤ c ∧ c ≤ 'F' then some (c.toNat - 'A'.toNat + 10)
  else none

/-- The character whose code point the next `count` hexadecimal digits give. -/
def codePoint (count : Nat) : Reader Char := do
  let rest ← get
  let values := (rest.take count).filterMap hexValue?
  if values.length < count then refuse
  let n := values.foldl (fun n digit => 16 * n + digit) 0
  if h : n.isValidChar then
    set (rest.drop count)
    return Char.ofNatAux n h
  else refuse

/-- The character that an escape stands for, the backslash taken already. -/
def escape : Reader Char := do
  match ← next with
  | 'b' => return '\x08'
  | 't' => return '\t'
  | 'n' => return '\n'
  | 'f' => return '\x0c'
  | 'r' => return '\r'
  | '"' => return '"'
  | '\\' => return '\\'
  | 'u' => codePoint 4
  | 'U' => codePoint 8
  | _ => refuse

/-- One character of a basic string. -/
def basicChar : Reader Char := do
  match ← next with
  | '\\' => escape
  | c => if isPlainIn '"' c then return c else refuse

def basicString : Reader String := do
  char '"'
  let chars ← many basicChar (← get).length
  char '"'
  return String.ofList chars

def literalString : Reader String := do
  char '\''
  let chars ← run (isPlainIn '\'')
  char '\''
  return String.ofList chars

/-- A backslash at the end of a line, which drops the line's end and the blanks after it. -/
def joinedLines : Reader (List Char) := do
  char '\\'
  blanks
  newline
  discard (many (blanks *> newline) (← get).length)
  blanks
  return []

def lineBreak : Reader (List Char) := do
  newline
  return ['\n']

/-- One or two quotes inside a string in triple quotes. -/
def innerQuotes (quote : Char) : Reader (List Char) := do
  let quotes := (← get).takeWhile (· == quote)
  if quotes.isEmpty || 3 ≤ quotes.length then refuse
  run (· == quote)

/-- The three quotes that end a string, and up to two before them that belong to it. -/
def closingQuotes (quote : Char) : Reader (List Char) := do
  let rest ← get
  let count := min 5 (rest.takeWhile (· == quote)).length
  if count < 3 then refuse
  set (rest.drop count)
  return List.replicate (count - 3) quote

/-- The content of a string in triple quotes, given how one of its characters is read. -/
def longString (quote : Char) (piece : Reader (List Char)) : Reader String := do
  word [quote, quote, quote]
  newline <|> return
  let pieces ← many (innerQuotes quote <|> piece) (← get).length
  let last ← closingQuotes quote
  return String.ofList (pieces.flatten ++ last)

def longBasicString : Reader String :=
  longString '"' (joinedLines <|> lineBreak <|> (fun c => [c]) <$> basicChar)

def longLiteralString : Reader String :=
  longString '\'' <| lineBreak <|> do
    let c ← next
    if isPlainIn '\'' c then return [c] else refuse

/-- A string of any kind. -/
def string : Reader String := do
  let rest ← get
  if ['"', '"', '"'].isPrefixOf rest then longBasicString
  else if ['\'', '\'', '\''].isPrefixOf rest then longLiteralString
  else if rest.head? == some '"' then basicString
  else literalString

end SiteIndex.Toml.Reader

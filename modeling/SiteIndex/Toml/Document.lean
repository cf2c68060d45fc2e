import SiteIndex.Toml.Assembly
import SiteIndex.Toml.MarkedMoment
import SiteIndex.Toml.Quotation

/-!
TOML documents. Values may hold others, to a limited depth. A document is read line by line: a header
opens a table, and the keys after it go into that table.
-/

namespace SiteIndex.Toml

/-- The most arrays and inline tables that may stand inside each other, and the most parts of a
dotted key. -/
def nestingLimit : Nat := 79

namespace Reader

def isBareKeyChar (c : Char) : Bool :=
  c.isAlphanum || c == '-' || c == '_'

def simpleKey : Reader String := do
  match ← peek? with
  | some '"' => basicString
  | some '\'' => literalString
  | _ =>
      let chars ← run isBareKeyChar
      if chars.isEmpty then refuse else return String.ofList chars

/-- The parts of a key, blanks allowed around each: those before the last, and the last. -/
def key : Reader (List String × String) := do
  let part : Reader String := do
    blanks
    let name ← simpleKey
    blanks
    return name
  let parts ← separated part (char '.') (← get).length
  match parts.getLast? with
  | some last =>
      if nestingLimit < parts.length then refuse else return (parts.dropLast, last)
  | none => refuse

def arrayOf (item : Reader Toml) : Reader Toml := do
  char '['
  let one : Reader Toml := do
    spread
    let value ← item
    spread
    return value
  let limit := (← get).length
  let some items ← some <$> separated one (char ',') limit <|> return none
    | do
      spread
      char ']'
      return .array []
  discard (accept [','])
  spread
  char ']'
  return .array items

def inlineTableOf (item : Reader Toml) : Reader Toml := do
  char '\x7b'
  let one : Reader ((List String × String) × Toml) := do
    let key ← key
    char '='
    blanks
    let value ← item
    blanks
    return (key, value)
  let pairs ← separated one (char ',') (← get).length <|> return []
  blanks
  char '\x7d'
  let add := fun (entries : Part.Entries) ((path, key), value) =>
    Part.addDotted value path key entries
  match pairs.foldlM add [] with
  | some entries => return .table (Part.values entries)
  | none => refuse

/-- A value of any kind, with others inside it as `nested` reads them. -/
def valueWith (nested : Reader Toml) : Reader Toml := do
  match ← peek? with
  | some '"' | some '\'' => Toml.string <$> string
  | some '[' => arrayOf nested
  | some '\x7b' => inlineTableOf nested
  | _ => scalar

/-- A value in which others stand inside each other `nesting` deep at the most. -/
def value : (nesting : Nat) → Reader Toml
  | 0 => do
      match ← peek? with
      | some '[' | some '\x7b' => refuse
      | _ => valueWith refuse
  | nesting + 1 => valueWith (value nesting)

/-- A header's brackets and the key between them, and whether the brackets are double. -/
def header : Reader (Bool × List String × String) := do
  char '['
  if ← accept ['['] then
    let (path, last) ← key
    word [']', ']']
    return (true, path, last)
  else
    let (path, last) ← key
    char ']'
    return (false, path, last)

inductive Line where
  | empty
  | table (path : List String) (key : String)
  | element (path : List String) (key : String)
  | pair (path : List String) (key : String) (value : Toml)

/-- One line of a document with its end. -/
def line : Reader Line := do
  blanks
  match ← peek? with
  | none => refuse
  | some '\n' | some '\r' =>
      newline
      return .empty
  | some '#' =>
      lineRest
      return .empty
  | some '[' =>
      let (double, path, last) ← header
      lineRest
      return if double then .element path last else .table path last
  | some _ =>
      let (path, last) ← key
      char '='
      blanks
      let value ← value nestingLimit
      lineRest
      return .pair path last value

end Reader

/-- The tables made so far, and the header under which keys are stored. -/
structure Assembly where
  entries : Part.Entries
  header : List String

def Assembly.add (assembly : Assembly) (line : Reader.Line) : Option Assembly :=
  match line with
  | .empty => some assembly
  | .table path key => do
      let entries ← Part.descend (Part.openTable key) path assembly.entries
      return ⟨entries, path ++ [key]⟩
  | .element path key => do
      let entries ← Part.descend (Part.openElement key) path assembly.entries
      return ⟨entries, path ++ [key]⟩
  | .pair path key value => do
      let entries ←
        Part.descend (Part.addDotted value path key) assembly.header assembly.entries
      return { assembly with entries }

/-- Reads a document; nothing if it is not TOML. -/
def read? (text : String) : Option Toml := do
  let chars := match text.toList with
    | '\uFEFF' :: rest => rest
    | chars => chars
  let (lines, rest) ← Reader.many Reader.line (chars.length + 1) chars
  if (rest.dropWhile Reader.isBlankChar).isEmpty then
    let assembly ← lines.foldlM Assembly.add ⟨[], []⟩
    unmarked? (.table (Part.values assembly.entries))
  else none

end SiteIndex.Toml

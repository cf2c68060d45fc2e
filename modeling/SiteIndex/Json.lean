import SiteIndex.Text.Numeral

/-!
JSON values and their written form, in lines indented by two spaces. Objects keep the order of their
members.
-/

namespace SiteIndex

inductive Json where
  | null
  | boolean (value : Bool)
  | number (value : Int)
  | string (value : String)
  | array (items : List Json)
  | object (members : List (String × Json))

namespace Json

def hexDigit (n : Nat) : Char :=
  if n < 10 then Char.ofNat ('0'.toNat + n) else Char.ofNat ('a'.toNat + n - 10)

/-- Only quotes, backslashes and control characters are escaped. -/
def escapeChar (c : Char) : List Char :=
  match c with
  | '"' => ['\\', '"']
  | '\\' => ['\\', '\\']
  | '\x08' => ['\\', 'b']
  | '\x0c' => ['\\', 'f']
  | '\n' => ['\\', 'n']
  | '\r' => ['\\', 'r']
  | '\t' => ['\\', 't']
  | c =>
      if c.toNat < 0x20 then
        ['\\', 'u', '0', '0', hexDigit (c.toNat / 16), hexDigit (c.toNat % 16)]
      else [c]

def quote (text : String) : String :=
  "\"" ++ String.ofList (text.toList.flatMap escapeChar) ++ "\""

def margin (indent : Nat) : String :=
  "\n" ++ String.ofList (List.replicate indent ' ')

mutual

/-- The lines of a value that stands `indent` spaces in. -/
def render (indent : Nat) : Json → String
  | .null => "null"
  | .boolean value => if value then "true" else "false"
  | .number value => toString value
  | .string value => quote value
  | .array [] => "[]"
  | .array (item :: items) =>
      "[" ++ margin (indent + 2) ++ render (indent + 2) item ++ renderItems (indent + 2) items ++
        margin indent ++ "]"
  | .object [] => "\x7b\x7d"
  | .object ((key, value) :: members) =>
      "\x7b" ++ margin (indent + 2) ++ quote key ++ ": " ++ render (indent + 2) value ++
        renderMembers (indent + 2) members ++ margin indent ++ "\x7d"

def renderItems (indent : Nat) : List Json → String
  | [] => ""
  | item :: items => "," ++ margin indent ++ render indent item ++ renderItems indent items

def renderMembers (indent : Nat) : List (String × Json) → String
  | [] => ""
  | (key, value) :: members =>
      "," ++ margin indent ++ quote key ++ ": " ++ render indent value ++
        renderMembers indent members

end

def pretty (value : Json) : String :=
  render 0 value

end Json
end SiteIndex

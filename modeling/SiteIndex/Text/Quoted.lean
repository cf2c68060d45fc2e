import SiteIndex.Text.Combining
import SiteIndex.Text.Unprintable

/-!
Text in double quotes, as it is shown in a message. The quotes, the backslash and the common control
characters have a short escape; whatever else cannot be seen by itself is written as its code point
in braces.
-/

namespace SiteIndex.Text

/-- The digits of `n` to the base sixteen, in lower case. -/
def hexDigits (n : Nat) : String :=
  String.ofList (Nat.toDigits 16 n)

def escapeChar (c : Char) : String :=
  match c with
  | '\t' => "\\t"
  | '\r' => "\\r"
  | '\n' => "\\n"
  | '"' => "\\\""
  | '\\' => "\\\\"
  | '\x00' => "\\0"
  | c =>
      if ' ' ≤ c ∧ c ≤ '~' then c.toString
      else if isCombining c || isUnprintable c then "\\u\x7b" ++ hexDigits c.toNat ++ "\x7d"
      else c.toString

def quoted (text : String) : String :=
  "\"" ++ String.join (text.toList.map escapeChar) ++ "\""

end SiteIndex.Text

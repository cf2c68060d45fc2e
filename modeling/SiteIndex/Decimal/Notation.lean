import SiteIndex.Decimal.Shortest
import SiteIndex.Text.Numeral

/-!
The written form of floating-point numbers. From `1e-4` up to `1e16` it is positional, with at least
one place after the point; otherwise it is scientific, without a point if there is one digit only.
-/

namespace SiteIndex.Decimal

open SiteIndex.Text

/-- Drops the zeros at the end of the digits and counts them into the exponent. -/
def dropZeros : (steps digits : Nat) → (exponent : Int) → Nat × Int
  | 0, digits, exponent => (digits, exponent)
  | steps + 1, digits, exponent =>
      if digits % 10 = 0 then dropZeros steps (digits / 10) (exponent + 1)
      else (digits, exponent)

def positional (digits : Nat) (exponent : Int) : String :=
  if 0 ≤ exponent then toString digits ++ zeros exponent.toNat ++ ".0"
  else
    let places := (-exponent).toNat
    let one := Nat.pow 10 places
    toString (digits / one) ++ "." ++ padded places (digits % one)

def scientific (digits : Nat) (exponent : Int) : String :=
  let text := (toString digits).toList
  let mantissa := match text with
    | first :: rest@(_ :: _) => String.ofList (first :: '.' :: rest)
    | _ => String.ofList text
  mantissa ++ "e" ++ toString (exponent + (text.length - 1 : Nat))

def Binary64.text : Binary64 → String
  | .nan => "NaN"
  | .infinite negative => (if negative then "-" else "") ++ "inf"
  | .finite negative significand exponent =>
      let sign := if negative then "-" else ""
      if significand = 0 then sign ++ "0.0"
      else
        let (digits, power) := shortest significand exponent
        let (digits, power) := dropZeros 20 digits power
        let leading := power + ((toString digits).length - 1 : Nat)
        sign ++ if -4 ≤ leading ∧ leading < 16 then positional digits power
          else scientific digits power

end SiteIndex.Decimal

import SiteIndex.Decimal.Binary64

/-!
The shortest decimal for a floating-point number: the fewest digits that are read back as the same
number, and among those the nearest to it. On the grid of so many digits only the two neighbours of
the exact value come into question.
-/

namespace SiteIndex.Decimal

/-- The exponent of the greatest power of ten that is not above `numerator / denominator`, which is
not zero. Below one it takes `steps` steps at the most. -/
def decimalExponent (numerator denominator : Nat) : (steps : Nat) → Int
  | 0 => 0
  | steps + 1 =>
      if denominator ≤ numerator then (toString (numerator / denominator)).length - 1
      else decimalExponent (10 * numerator) denominator steps - 1

/-- The one of two neighbours on a grid that is read back; if both are, the nearer, and the upper if
they are equally near. The exact value lies `below / whole` of the grid's step above `low`. -/
def pickNeighbour (readsBack : Nat → Bool) (low below whole : Nat) : Option Nat :=
  match readsBack low, readsBack (low + 1) with
  | true, true => some (if 2 * below < whole then low else low + 1)
  | true, false => some low
  | false, true => some (low + 1)
  | false, false => none

/-- Tries grids of more and more digits, `tries` of them. -/
def searchGrids (value : Binary64) (numerator denominator : Nat) :
    (tries : Nat) → (exponent : Int) → Nat × Int
  | 0, exponent => (0, exponent)
  | tries + 1, exponent =>
      let (up, down) := scaled 1 10 (-exponent)
      let numerator' := numerator * up
      let denominator' := denominator * down
      let readsBack := fun digits => Binary64.ofDecimal false digits exponent == value
      match pickNeighbour readsBack (numerator' / denominator') (numerator' % denominator')
          denominator' with
      | some digits => (digits, exponent)
      | none => searchGrids value numerator denominator tries (exponent - 1)

/-- Digits and exponent of ten of the shortest decimal for a positive number. -/
def shortest (significand : Nat) (exponent : Int) : Nat × Int :=
  let (numerator, denominator) := scaled significand 2 exponent
  searchGrids (.finite false significand exponent) numerator denominator 17
    (decimalExponent numerator denominator 400)

end SiteIndex.Decimal

/-!
Binary floating-point numbers of 64 bits, as exact values: a finite one is a whole number of at most
53 bits times a power of two. A decimal is read by rounding the exact quotient to the nearest such
value, a tie going to the even significand.
-/

namespace SiteIndex.Decimal

inductive Binary64 where
  | finite (negative : Bool) (significand : Nat) (exponent : Int)
  | infinite (negative : Bool)
  | nan
  deriving DecidableEq, Repr

/-- `numerator / denominator` to the nearest whole number, a tie to the even one. -/
def roundQuotient (numerator denominator : Nat) : Nat :=
  let quotient := numerator / denominator
  let twice := 2 * (numerator % denominator)
  if denominator < twice ∨ (twice = denominator ∧ quotient % 2 = 1) then quotient + 1
  else quotient

/-- `n * base ^ exponent` as a numerator and a denominator. -/
def scaled (n base : Nat) (exponent : Int) : Nat × Nat :=
  if 0 ≤ exponent then (n * base.pow exponent.toNat, 1) else (n, base.pow (-exponent).toNat)

/-- The exponent of the greatest power of two that is not above `numerator / denominator`. -/
def binaryExponent (numerator denominator : Nat) : Int :=
  let guess : Int := (numerator.log2 : Int) - denominator.log2
  let (power, one) := scaled 1 2 guess
  if denominator * power ≤ numerator * one then guess else guess - 1

namespace Binary64

def precision : Nat := 53
def leastExponent : Int := -1074
/-- The greatest exponent of a significand of full length. -/
def greatestExponent : Int := 971

def zero (negative : Bool) : Binary64 :=
  .finite negative 0 leastExponent

/-- The value nearest to `numerator / denominator`. -/
def ofQuotient (negative : Bool) (numerator denominator : Nat) : Binary64 :=
  if numerator = 0 then zero negative
  else
    let exponent := max (binaryExponent numerator denominator - (precision - 1)) leastExponent
    let (up, down) := scaled 1 2 (-exponent)
    let significand := roundQuotient (numerator * up) (denominator * down)
    let (significand, exponent) :=
      if significand = Nat.pow 2 precision then (significand / 2, exponent + 1)
      else (significand, exponent)
    if greatestExponent < exponent then .infinite negative
    else .finite negative significand exponent

/-- The value nearest to `digits * 10 ^ exponent`. Exponents far outside the range are decided without
working the power out. -/
def ofDecimal (negative : Bool) (digits : Nat) (exponent : Int) : Binary64 :=
  let size : Int := exponent + (toString digits).length
  if digits = 0 ∨ size < -400 then zero negative
  else if 400 < size then .infinite negative
  else
    let (numerator, denominator) := scaled digits 10 exponent
    ofQuotient negative numerator denominator

end Binary64
end SiteIndex.Decimal

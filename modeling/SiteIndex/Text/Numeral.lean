/-!
Whole numbers in decimal notation: reading them digit by digit and writing them with leading zeros.
-/

namespace SiteIndex.Text

def digitValue? (c : Char) : Option Nat :=
  if '0' ≤ c ∧ c ≤ '9' then some (c.toNat - '0'.toNat) else none

/-- The number that the digits stand for after `read`, the number before them. -/
def foldDigits? (read : Nat) : List Char → Option Nat
  | [] => some read
  | c :: rest => (digitValue? c).bind fun digit => foldDigits? (10 * read + digit) rest

/-- A number of at least one digit and of nothing else. -/
def readDigits? : List Char → Option Nat
  | [] => none
  | digits => foldDigits? 0 digits

/-- A number that may have a plus sign and stays below `2 ^ bits`. -/
def readUnsigned? (bits : Nat) (text : List Char) : Option Nat :=
  let digits := match text with
    | '+' :: digits => digits
    | digits => digits
  (readDigits? digits).filter (· < Nat.pow 2 bits)

/-- A number that may have a sign and fits into `bits + 1` bits, the sign's bit included. -/
def readSigned? (bits : Nat) (text : List Char) : Option Int :=
  match text with
  | '-' :: digits => ((readDigits? digits).filter (· ≤ Nat.pow 2 bits)).map fun n => -(n : Int)
  | text => (readUnsigned? bits text).map fun n => (n : Int)

def zeros (count : Nat) : String :=
  String.ofList (List.replicate count '0')

/-- `n` with as many leading zeros as it takes to fill `width`. -/
def padded (width n : Nat) : String :=
  let digits := toString n
  zeros (width - digits.length) ++ digits

end SiteIndex.Text

import SiteIndex.Calendar
import SiteIndex.Toml.Basic
import SiteIndex.Toml.Reader

/-!
Numbers, booleans and moments in TOML text. Integers have 64 bits with a sign. A decimal fraction too
great for a floating-point number is refused, though one too small is not.
-/

namespace SiteIndex.Toml.Reader

open SiteIndex.Text SiteIndex.Decimal

/-- A sign, if one stands next; whether it is a minus. -/
def sign : Reader Bool := do
  if ← accept ['-'] then return true
  discard (accept ['+'])
  return false

/-- The digits of a whole number in decimal, which begin with a zero only if that is all. -/
def wholeDigits : Reader (List Char) := do
  if ← accept ['0'] then return ['0'] else digits isDecimal

def numberOf (base : Nat) (chars : List Char) : Nat :=
  chars.foldl (fun n c => base * n + digitIn c) 0
where
  digitIn (c : Char) : Nat :=
    if isDecimal c then c.toNat - '0'.toNat
    else if 'a' ≤ c then c.toNat - 'a'.toNat + 10
    else c.toNat - 'A'.toNat + 10

def inRange (n : Int) : Reader Int :=
  if -9223372036854775808 ≤ n ∧ n ≤ 9223372036854775807 then return n else refuse

def isHexadecimal (c : Char) : Bool :=
  isDecimal c || ('a' ≤ c && c ≤ 'f') || ('A' ≤ c && c ≤ 'F')

def isOctal (c : Char) : Bool :=
  '0' ≤ c && c ≤ '7'

def isBinary (c : Char) : Bool :=
  c == '0' || c == '1'

def integer : Reader Int := do
  if ← accept ['0', 'x'] then inRange (numberOf 16 (← digits isHexadecimal))
  else if ← accept ['0', 'o'] then inRange (numberOf 8 (← digits isOctal))
  else if ← accept ['0', 'b'] then inRange (numberOf 2 (← digits isBinary))
  else
    let negative ← sign
    let n := numberOf 10 (← wholeDigits)
    inRange (if negative then -(n : Int) else n)

/-- The exponent of a decimal fraction, from its `e` on. -/
def exponent : Reader Int := do
  char 'e' <|> char 'E'
  let negative ← sign
  let n := numberOf 10 (← digits isDecimal)
  return if negative then -(n : Int) else n

/-- The digits after a point, the point included. -/
def fraction : Reader (List Char) := do
  char '.'
  digits isDecimal

def decimalFraction : Reader Binary64 := do
  let negative ← sign
  let whole ← wholeDigits
  let withFraction : Reader (List Char × Int) := do
    return (← fraction, ← exponent <|> return 0)
  let withoutFraction : Reader (List Char × Int) := do
    return ([], ← exponent)
  let (places, power) ← withoutFraction <|> withFraction
  let value := Binary64.ofDecimal negative (numberOf 10 (whole ++ places)) (power - places.length)
  if value = .infinite false then refuse else return value

def specialFloat : Reader Binary64 := do
  let negative ← sign
  (do word ['i', 'n', 'f']; return .infinite negative) <|> do
    word ['n', 'a', 'n']
    return .nan

def float : Reader Binary64 :=
  decimalFraction <|> specialFloat

def boolean : Reader Bool :=
  (do word ['t', 'r', 'u', 'e']; return true) <|> do
    word ['f', 'a', 'l', 's', 'e']
    return false

def day : Reader Day := do
  let year ← fixedDigits 4
  char '-'
  let month ← fixedDigits 2
  char '-'
  let day ← fixedDigits 2
  if 1 ≤ month ∧ month ≤ 12 ∧ 1 ≤ day ∧ day ≤ Calendar.daysInMonth year month then
    return ⟨year, month, day⟩
  else refuse

/-- The fraction of a second in nanoseconds; further digits are dropped. -/
def nanoseconds : Reader Nat := do
  char '.'
  let places ← run isDecimal
  if places.isEmpty then refuse
  let kept := places.take 9
  return numberOf 10 kept * Nat.pow 10 (9 - kept.length)

/-- A time of day whose hour is `lastHour` at the most. -/
def timeOfDay (lastHour : Nat) : Reader TimeOfDay := do
  let hour ← fixedDigits 2
  char ':'
  let minute ← fixedDigits 2
  char ':'
  let second ← fixedDigits 2
  let nanosecond ← nanoseconds <|> return 0
  if hour ≤ lastHour ∧ minute ≤ 59 ∧ second ≤ 60 then return ⟨hour, minute, second, nanosecond⟩
  else refuse

/-- An offset whose hours and minutes satisfy `test`. -/
def offsetThat (test : Nat → Nat → Bool) : Reader Offset :=
  (do char 'Z' <|> char 'z'; return .utc) <|> do
    let negative ← (do char '-'; return true) <|> do char '+'; return false
    let hours ← fixedDigits 2
    char ':'
    let minutes ← fixedDigits 2
    if test hours minutes then
      let count : Int := hours * 60 + minutes
      return .minutes (if negative then -count else count)
    else refuse

def momentOf (time : Reader TimeOfDay) (offset : Reader Offset) : Reader Moment :=
  (do
    let day ← day
    match ← some <$> afterDay <|> return none with
    | some (time, offset) => return ⟨some day, some time, offset⟩
    | none => return ⟨some day, none, none⟩) <|> do
    return ⟨none, some (← time), none⟩
where
  /-- A time of day that follows a date, and its offset. -/
  afterDay : Reader (TimeOfDay × Option Offset) := do
    char 'T' <|> char 't' <|> char ' '
    let time ← time
    return (time, ← some <$> offset <|> return none)

def moment : Reader Moment :=
  momentOf (timeOfDay 23) (offsetThat fun hours minutes => hours ≤ 23 && minutes ≤ 59)

/-- A value that is neither a string nor made of others. -/
def scalar : Reader Toml :=
  Toml.moment <$> moment <|> Toml.float <$> float <|> Toml.integer <$> integer <|>
    Toml.boolean <$> boolean

end SiteIndex.Toml.Reader

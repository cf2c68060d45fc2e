import SiteIndex.Text.Blank
import SiteIndex.Text.Numeral

/-!
The date of a news item. Month and day are brought into range one by one, so a date such as the 31st
of February can occur. A date that is only partly readable keeps the components before the first one
that is not; the others are those of the first of January 1970.
-/

namespace SiteIndex.News

open SiteIndex.Text

structure Date where
  year : Int
  month : Nat
  day : Nat
  deriving DecidableEq, Repr

namespace Date

def clampTo (low high n : Nat) : Nat :=
  if n < low then low else if high < n then high else n

def clamped (year : Int) (month day : Nat) : Date :=
  ⟨year, clampTo 1 12 month, clampTo 1 31 day⟩

def fallback : Date :=
  clamped 1970 1 1

/-- A signed number as a sequence of pieces, zeros one by one, that fill `width` together. -/
def paddedPieces (width : Nat) (n : Int) : List String :=
  let digits := toString n.natAbs
  let sign := if n < 0 then ["-"] else []
  sign ++ List.replicate (width - digits.length - sign.length) "0" ++ [digits]

/-- The pieces of the written form, in the order in which they are written. -/
def pieces (date : Date) : List String :=
  paddedPieces 4 date.year ++ ["-"] ++ paddedPieces 2 date.month ++ ["-"] ++
    paddedPieces 2 date.day

/-- The form `2024-05-01`. -/
def text (date : Date) : String :=
  String.join date.pieces

/-- The part before the first hyphen and the part after it, if there is a hyphen. -/
def cutHyphen (text : List Char) : List Char × Option (List Char) :=
  match text.dropWhile (· != '-') with
  | [] => (text, none)
  | _ :: rest => (text.takeWhile (· != '-'), some rest)

/-- Reads a date from a line. The answer is the date as far as it can be read, and whether that is
all of it. -/
def read (line : List Char) : Date × Bool :=
  let (yearText, afterYear) := cutHyphen (trimBlank line)
  match readSigned? 31 (trimBlank yearText) with
  | none => (fallback, false)
  | some year =>
    let (monthText, afterMonth) := cutHyphen (afterYear.getD [])
    match afterYear.bind fun _ => readUnsigned? 32 (trimBlank monthText) with
    | none => (clamped year fallback.month fallback.day, false)
    | some month =>
      match afterMonth.bind fun dayText => readUnsigned? 32 (trimBlank dayText) with
      | none => (clamped year month fallback.day, false)
      | some day => (clamped year month day, true)

end Date
end SiteIndex.News

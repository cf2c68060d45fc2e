import SiteIndex.Text.Numeral

/-!
Dates and times of day, alone or together, with or without an offset from universal time.
-/

namespace SiteIndex.Toml

open SiteIndex.Text

structure Day where
  year : Nat
  month : Nat
  day : Nat
  deriving DecidableEq, Repr

structure TimeOfDay where
  hour : Nat
  minute : Nat
  second : Nat
  nanosecond : Nat
  deriving DecidableEq, Repr

inductive Offset where
  | utc
  | minutes (count : Int)
  deriving DecidableEq, Repr

structure Moment where
  day : Option Day
  time : Option TimeOfDay
  offset : Option Offset
  deriving DecidableEq, Repr

def Day.text (day : Day) : String :=
  padded 4 day.year ++ "-" ++ padded 2 day.month ++ "-" ++ padded 2 day.day

/-- Fractions of a second are written without zeros at the end. -/
def TimeOfDay.text (time : TimeOfDay) : String :=
  let fraction :=
    if time.nanosecond = 0 then ""
    else
      let digits := (padded 9 time.nanosecond).toList
      "." ++ String.ofList ((digits.reverse.dropWhile (· == '0')).reverse)
  padded 2 time.hour ++ ":" ++ padded 2 time.minute ++ ":" ++ padded 2 time.second ++ fraction

def Offset.text : Offset → String
  | .utc => "Z"
  | .minutes count =>
      let size := count.natAbs
      (if count < 0 then "-" else "+") ++ padded 2 (size / 60) ++ ":" ++ padded 2 (size % 60)

def Moment.text (moment : Moment) : String :=
  let day := (moment.day.map Day.text).getD ""
  let joint := if moment.day.isSome && moment.time.isSome then "T" else ""
  let time := (moment.time.map TimeOfDay.text).getD ""
  day ++ joint ++ time ++ (moment.offset.map Offset.text).getD ""

end SiteIndex.Toml

/- Local time.
   An instant in a time zone, written as date and time of day. -/

import AccessorGen.Text.Numeral

set_option autoImplicit false
set_option relaxedAutoImplicit false

namespace AccessorGen

/-- A date of the Gregorian calendar, extended to all years. -/
structure Date where
  year : Int
  month : Nat
  day : Nat
  deriving DecidableEq, Repr

/-- The date that lies `days` days after 1 January 1970. Years are counted from March on, so that a
leap day ends its year; an era is four hundred years, or 146097 days. -/
def Date.ofDays (days : Int) : Date :=
  let shifted := days + 719468
  let era := shifted / 146097
  let dayOfEra := (shifted % 146097).toNat
  let yearOfEra :=
    (dayOfEra - dayOfEra / 1460 + dayOfEra / 36524 - dayOfEra / 146096) / 365
  let dayOfYear := dayOfEra - (365 * yearOfEra + yearOfEra / 4 - yearOfEra / 100)
  let monthFromMarch := (5 * dayOfYear + 2) / 153
  let month := if monthFromMarch < 10 then monthFromMarch + 3 else monthFromMarch - 9
  { year := era * 400 + yearOfEra + (if month ≤ 2 then 1 else 0)
    month := month
    day := dayOfYear - (153 * monthFromMarch + 2) / 5 + 1 }

/-- An instant, in seconds since 1970, in a zone that lies `offset` seconds east of UTC. -/
structure LocalTime where
  timestamp : Int
  offset : Int
  deriving DecidableEq, Repr

namespace LocalTime

/-- A year with at least four digits, and with a sign if it is not within four digits. -/
def yearText (year : Int) : List Char :=
  let digits := year.natAbs
  let padded := if digits < 10000 then Text.fixedDigits 10 4 digits else (toString digits).toList
  if year < 0 then '-' :: padded else if 9999 < year then '+' :: padded else padded

/-- Date and time of day, as in `2024-02-29 07:05:09`. -/
def display (t : LocalTime) : String :=
  let seconds := t.timestamp + t.offset
  let date := Date.ofDays (seconds / 86400)
  let second := (seconds % 86400).toNat
  let two := Text.fixedDigits 10 2
  String.ofList
    (yearText date.year ++ '-' :: two date.month ++ '-' :: two date.day ++ ' ' ::
      two (second / 3600) ++ ':' :: two (second / 60 % 60) ++ ':' :: two (second % 60))

end LocalTime

example : Date.ofDays 19782 = ⟨2024, 2, 29⟩ := by decide

end AccessorGen

import FunctionSearch.Duration
import FunctionSearch.Number.Decimal

/-!
# Timestamps

A moment, given as the time since the start of 1970, as a date and a time of day in UTC.

* `CivilDate.ofDays`: the date of a day in the Gregorian calendar;
* `timestamp`: the text of a moment, with thousandths of a second unless there are none.
-/

namespace FunctionSearch

/-- A date of the Gregorian calendar. -/
structure CivilDate where
  year : Nat
  month : Nat
  day : Nat
  deriving DecidableEq, Repr

/-- The days from the first of March of the year zero to the start of 1970. -/
def daysBefore1970 : Nat := 719468

/-- The date of the day with this number, counted from the start of 1970. Years are counted from
March on, so that the day that only leap years have is the last one of its year; every 400 years
have 146097 days. -/
def CivilDate.ofDays (n : Nat) : CivilDate :=
  let days := n + daysBefore1970
  let era := days / 146097
  let dayOfEra := days % 146097
  let yearOfEra := (dayOfEra - dayOfEra / 1460 + dayOfEra / 36524 - dayOfEra / 146096) / 365
  let dayOfYear := dayOfEra - (365 * yearOfEra + yearOfEra / 4 - yearOfEra / 100)
  let month := (5 * dayOfYear + 2) / 153
  { year := yearOfEra + 400 * era + (if month < 10 then 0 else 1)
    month := if month < 10 then month + 3 else month - 9
    day := dayOfYear - (153 * month + 2) / 5 + 1 }

/-- A number with at least `width` digits. -/
def padded (width n : Nat) : String :=
  let digits := Number.numeral n
  String.ofList (List.replicate (width - digits.length) '0' ++ digits)

/-- The text of a moment. -/
def timestamp (moment : Duration) : String :=
  let seconds := moment.milliseconds / 1000
  let thousandths := moment.milliseconds % 1000
  let date := CivilDate.ofDays (seconds / 86400)
  let time := seconds % 86400
  s!"{padded 4 date.year}-{padded 2 date.month}-{padded 2 date.day}T" ++
    s!"{padded 2 (time / 3600)}:{padded 2 (time / 60 % 60)}:{padded 2 (time % 60)}" ++
    (if thousandths = 0 then "" else s!".{padded 3 thousandths}") ++ "+00:00"

end FunctionSearch

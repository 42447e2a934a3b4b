/-!
# Moments

A moment is counted in seconds from the beginning of the year 1970, in universal time, and
shown as a date of the civil calendar with the time of day.
-/

namespace AvrSetup

/-- A point in time. -/
structure Moment where
  /-- The seconds since the beginning of the year 1970. -/
  seconds : Nat
  deriving DecidableEq, Repr

/-- A date of the civil calendar. -/
structure CivilDate where
  /-- The year. -/
  year : Nat
  /-- The month, from one. -/
  month : Nat
  /-- The day of the month, from one. -/
  day : Nat
  deriving DecidableEq, Repr

namespace CivilDate

/-- The days from the first of March of the year 0 to the first of January of 1970. -/
def epoch : Nat := 719468

/-- The date a number of days after the first of January of 1970. Years are counted from the
first of March, so that a leap day is the last day of its year, in cycles of four hundred
years, all of which have the same number of days. -/
def ofDays (days : Nat) : CivilDate :=
  let days := days + epoch
  let cycle := days / 146097
  let dayOfCycle := days % 146097
  let yearOfCycle :=
    (dayOfCycle + dayOfCycle / 36524 - dayOfCycle / 1460 - dayOfCycle / 146096) / 365
  let dayOfYear := dayOfCycle + yearOfCycle / 100 - 365 * yearOfCycle - yearOfCycle / 4
  let monthFromMarch := (5 * dayOfYear + 2) / 153
  let day := dayOfYear - (153 * monthFromMarch + 2) / 5 + 1
  let month := if monthFromMarch < 10 then monthFromMarch + 3 else monthFromMarch - 9
  let year := yearOfCycle + 400 * cycle
  ⟨if month ≤ 2 then year + 1 else year, month, day⟩

end CivilDate

/-- A number with leading zeros up to a width. -/
def zeroPadded (width value : Nat) : String :=
  let digits := (toString value).toList
  .ofList (List.replicate (width - digits.length) '0' ++ digits)

/-- A moment as a date with the time of day. -/
def Moment.text (moment : Moment) : String :=
  let date := CivilDate.ofDays (moment.seconds / 86400)
  let second := moment.seconds % 86400
  zeroPadded 4 date.year ++ "-" ++ zeroPadded 2 date.month ++ "-" ++ zeroPadded 2 date.day ++
    " " ++ zeroPadded 2 (second / 3600) ++ ":" ++ zeroPadded 2 (second / 60 % 60) ++ ":" ++
    zeroPadded 2 (second % 60) ++ " UTC"

end AvrSetup

/-!
# Moments

The text of a moment, given by the microseconds since the start of 1970: date, time of day and the
distance from the standard clock, which is zero. Years have 365 days, and one more in leap years;
counting them from the first of March puts the odd day at the end.
-/

namespace CoverAudit.Moment

/-- A date. -/
structure Date where
  year : Nat
  month : Nat
  day : Nat
  deriving DecidableEq, Repr

/-- The days from the first of March of the year 0 to the start of 1970. -/
def daysToEpoch : Nat := 719468

/-- The date that lies so many days behind the start of 1970. -/
def dateOf (days : Nat) : Date :=
  let days := days + daysToEpoch
  let cycle := days / 146097
  let inCycle := days % 146097
  let yearInCycle := (inCycle - inCycle / 1460 + inCycle / 36524 - inCycle / 146096) / 365
  let dayOfYear := inCycle - (365 * yearInCycle + yearInCycle / 4 - yearInCycle / 100)
  let monthFromMarch := (5 * dayOfYear + 2) / 153
  let day := dayOfYear - (153 * monthFromMarch + 2) / 5 + 1
  let month := if monthFromMarch < 10 then monthFromMarch + 3 else monthFromMarch - 9
  let year := yearInCycle + 400 * cycle + (if month ≤ 2 then 1 else 0)
  { year, month, day }

/-- A number with zeros in front. -/
def padded (width n : Nat) : String :=
  let digits := Nat.toDigits 10 n
  String.ofList (List.replicate (width - digits.length) '0' ++ digits)

/-- The text of a moment. A whole second has no fraction. -/
def text (microseconds : Nat) : String :=
  let seconds := microseconds / 1000000
  let fraction := microseconds % 1000000
  let date := dateOf (seconds / 86400)
  let inDay := seconds % 86400
  padded 4 date.year ++ "-" ++ padded 2 date.month ++ "-" ++ padded 2 date.day ++ "T" ++
    padded 2 (inDay / 3600) ++ ":" ++ padded 2 (inDay / 60 % 60) ++ ":" ++ padded 2 (inDay % 60) ++
    (if fraction = 0 then "" else "." ++ padded 6 fraction) ++ "+00:00"

/-- The last day of February in a leap year. -/
example : text 1709251199000001 = "2024-02-29T23:59:59.000001+00:00" := by decide +kernel

/-- The start of the count. -/
example : text 0 = "1970-01-01T00:00:00+00:00" := by decide +kernel

end CoverAudit.Moment

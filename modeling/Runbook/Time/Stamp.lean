import Runbook.Time.Clock

/-!
# The text of a point in time

A point in time is written as a date and a time of day in UTC, `2024-01-15T10:30:00.250Z`.

* `Date`, `Date.ofDays` : the date that lies a number of days after the start of 1970, in the
  Gregorian calendar extended to all years;
* `Instant.text` : the text, with 0, 3, 6 or 9 digits of the second's fraction, the fewest that are
  exact; years outside 0 to 9999 bear a sign, and a leap second has the number after the second before it.
-/

namespace Runbook

/-- A day of the Gregorian calendar. -/
structure Date where
  year : Int
  month : Nat
  day : Nat
deriving DecidableEq, Repr

namespace Date

/-- Days in four hundred years, after which the calendar repeats itself. -/
def eraDays : Nat := 146097

/-- Days from the first of March of the year 0 to the start of 1970. -/
def epochDays : Nat := 719468

/-- The date a number of days after the start of 1970. Years are counted from the first of March, so
that a leap day is the last of its year; months then have a regular pattern of lengths. -/
def ofDays (days : Int) : Date :=
  let shifted := days + epochDays
  let era := shifted / eraDays
  let dayOfEra := (shifted % eraDays).toNat
  let yearOfEra := (dayOfEra - dayOfEra / 1460 + dayOfEra / 36524 - dayOfEra / 146096) / 365
  let dayOfYear := dayOfEra - (365 * yearOfEra + yearOfEra / 4 - yearOfEra / 100)
  let marchMonth := (5 * dayOfYear + 2) / 153
  let day := dayOfYear - (153 * marchMonth + 2) / 5 + 1
  let month := if marchMonth < 10 then marchMonth + 3 else marchMonth - 9
  let year := yearOfEra + era * 400 + (if month ≤ 2 then 1 else 0)
  ⟨year, month, day⟩

end Date

namespace Instant

/-- A number in decimal digits, zeros in front up to a width. -/
def padded (width n : Nat) : List Char :=
  let digits := Nat.toDigits 10 n
  List.replicate (width - digits.length) '0' ++ digits

/-- The year of a text: four digits, and a sign where that is not enough. -/
def yearChars (year : Int) : List Char :=
  if 0 ≤ year ∧ year ≤ 9999 then padded 4 year.toNat
  else (if year < 0 then '-' else '+') :: padded 4 year.natAbs

/-- The fraction of a second, given in nanoseconds. -/
def fractionChars (nanos : Nat) : List Char :=
  if nanos = 0 then []
  else if nanos % 1000000 = 0 then '.' :: padded 3 (nanos / 1000000)
  else if nanos % 1000 = 0 then '.' :: padded 6 (nanos / 1000)
  else '.' :: padded 9 nanos

/-- The characters of a point in time. -/
def chars (t : Instant) : List Char :=
  let date := Date.ofDays (t.second / 86400)
  let ofDay := t.ofDay.toNat
  yearChars date.year ++ '-' :: padded 2 date.month ++ '-' :: padded 2 date.day
    ++ 'T' :: padded 2 (ofDay / 3600) ++ ':' :: padded 2 (ofDay / 60 % 60)
    ++ ':' :: padded 2 (ofDay % 60 + t.nanos / 1000000000) ++ fractionChars (t.nanos % 1000000000) ++ ['Z']

/-- The text of a point in time. -/
def text (t : Instant) : String := String.ofList (chars t)

end Instant

end Runbook

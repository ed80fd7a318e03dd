import MetricQuery.Number.Layout

/-!
# Dates

A date is a day of the proleptic Gregorian calendar, counted from 1970-01-01.  Years repeat in
cycles of 400, of 146097 days each; within a cycle a year is taken to begin in March, so that the
leap day comes last.

* `Date.civil`    : year, month and day of the month;
* `Date.ofCivil?` : the date of a year, month and day, if there is one;
* `Date.text`     : `YYYY-MM-DD`.
-/

set_option autoImplicit false

namespace MetricQuery

/-- A day of the calendar, as the number of days since 1970-01-01. -/
structure Date where
  days : Int
  deriving DecidableEq, Repr

/-- Year, month and day of the month. -/
structure Civil where
  year : Int
  month : Nat
  day : Nat
  deriving DecidableEq, Repr

namespace Civil

/-- Whether the year has a leap day. -/
def isLeap (year : Int) : Bool := year % 4 == 0 && (year % 100 != 0 || year % 400 == 0)

/-- How many days the month has. -/
def daysInMonth (year : Int) (month : Nat) : Nat :=
  if month = 2 then (if isLeap year then 29 else 28)
  else if month = 4 ∨ month = 6 ∨ month = 9 ∨ month = 11 then 30
  else 31

/-- A month and a day that the calendar has. -/
def isValid (c : Civil) : Bool :=
  1 ≤ c.month && c.month ≤ 12 && 1 ≤ c.day && c.day ≤ daysInMonth c.year c.month

/-- Days since 1970-01-01. -/
def toDays (c : Civil) : Int :=
  let year := if c.month ≤ 2 then c.year - 1 else c.year
  let cycle := year / 400
  let yearOfCycle := year % 400
  let month : Int := if 2 < c.month then c.month - 3 else c.month + 9
  let dayOfYear := (153 * month + 2) / 5 + c.day - 1
  let dayOfCycle := yearOfCycle * 365 + yearOfCycle / 4 - yearOfCycle / 100 + dayOfYear
  cycle * 146097 + dayOfCycle - 719468

end Civil

namespace Date

/-- Year, month and day of the month. -/
def civil (d : Date) : Civil :=
  let shifted := d.days + 719468
  let cycle := shifted / 146097
  let dayOfCycle := shifted % 146097
  let yearOfCycle :=
    (dayOfCycle - dayOfCycle / 1460 + dayOfCycle / 36524 - dayOfCycle / 146096) / 365
  let dayOfYear := dayOfCycle - (365 * yearOfCycle + yearOfCycle / 4 - yearOfCycle / 100)
  let month := (5 * dayOfYear + 2) / 153
  let day := dayOfYear - (153 * month + 2) / 5 + 1
  let month := if month < 10 then month + 3 else month - 9
  let year := yearOfCycle + cycle * 400
  ⟨if month ≤ 2 then year + 1 else year, month.toNat, day.toNat⟩

/-- The first and the last year that a date may have. -/
def yearRange : Int × Int := (-262143, 262142)

/-- Whether a date may have the year. -/
def isYear (year : Int) : Bool := yearRange.1 ≤ year && year ≤ yearRange.2

/-- The date of a year, month and day, if the calendar has it. -/
def ofCivil? (c : Civil) : Option Date :=
  if c.isValid && isYear c.year then some ⟨c.toDays⟩ else none

end Date

/-- The digits of `n`, with zeros in front up to the width. -/
def padded (width n : Nat) : String :=
  let digits := Nat.toDigits 10 n
  String.ofList (List.replicate (width - digits.length) '0' ++ digits)

/-- A year: four digits, and a sign for a year that these do not cover. -/
def yearText (year : Int) : String :=
  if 0 ≤ year ∧ year ≤ 9999 then padded 4 year.toNat
  else (if year < 0 then "-" else "+") ++ padded 4 year.natAbs

namespace Date

/-- A date as `YYYY-MM-DD`. -/
def text (d : Date) : String :=
  let c := d.civil
  yearText c.year ++ "-" ++ padded 2 c.month ++ "-" ++ padded 2 c.day

end Date

end MetricQuery

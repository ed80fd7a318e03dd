import MetricQuery.Text.Scanner
import MetricQuery.Time.Instant

/-!
# Dates and moments from text

The reader takes what the writers write, and is lenient about blanks, about leading zeros and about
the sign of the year.

* `Date.read?`   : a date;
* `Moment.read?` : a date, a time of day and an offset.
-/

set_option autoImplicit false

namespace MetricQuery

open Scanner

namespace Time

/-- Blanks, then a number of at most `width` digits. -/
def number (width : Nat) : Scanner Nat := ofOption fun s =>
  let s := Text.trimStart s
  match (s.take width).takeWhile Char.isDigit with
  | [] => none
  | digits => some (valueOf digits, s.drop digits.length)

/-- Blanks, then a number in a range. -/
def numberIn (width low high : Nat) : Scanner Nat := do
  let n ← number width
  if low ≤ n ∧ n ≤ high then pure n else fail

/-- Blanks, then a year: at most four digits, or any number of them after a sign. -/
def year : Scanner Int := do
  blanks
  if ← flag '-' then
    let digits ← takeSome Char.isDigit
    pure (-(valueOf digits : Int))
  else if ← flag '+' then
    let digits ← takeSome Char.isDigit
    pure (valueOf digits)
  else
    let n ← number 4
    pure (n : Int)

/-- Year, month and day with hyphens between them. -/
def date : Scanner Date := do
  let year ← year
  blanks; char '-'
  let month ← numberIn 2 1 12
  blanks; char '-'
  let day ← numberIn 2 1 31
  match Date.ofCivil? ⟨year, month, day⟩ with
  | some d => pure d
  | none => fail

/-- The fraction of a second in nanoseconds, of which nine digits count. -/
def fraction : Scanner Nat := do
  let digits ← takeSome Char.isDigit
  pure (valueOf ((digits ++ List.replicate 9 '0').take 9))

/-- Seconds since midnight and nanoseconds. -/
def timeOfDay : Scanner (Nat × Nat) := do
  let hour ← numberIn 2 0 23
  blanks; char ':'
  let minute ← numberIn 2 0 59
  blanks; char ':'
  let second ← numberIn 2 0 60
  let nanos ← if ← flag '.' then fraction else pure 0
  if second = 60 then pure (hour * 3600 + minute * 60 + 59, nanos + nanosPerSecond)
  else pure (hour * 3600 + minute * 60 + second, nanos)

/-- Exactly two digits. -/
def twoDigits : Scanner Nat := ofOption fun
  | a :: b :: rest => if a.isDigit && b.isDigit then some (valueOf [a, b], rest) else none
  | _ => none

/-- Hours and minutes in seconds, with colons or blanks between them. -/
def hoursMinutes : Scanner Int := do
  let hours ← twoDigits
  let _ ← takeWhile fun c => c == ':' || Text.isBlank c
  let minutes ← twoDigits
  if minutes ≤ 59 then pure ((hours * 3600 + minutes * 60 : Nat) : Int) else fail

/-- The word for universal time, in letters of either case. -/
def universal : Scanner Unit := ofOption fun
  | a :: b :: c :: rest =>
    if a.toUpper = 'U' ∧ b.toUpper = 'T' ∧ c.toUpper = 'C' then some ((), rest) else none
  | _ => none

/-- An offset in seconds: universal time, or a sign with hours and minutes. -/
def offset : Scanner Int :=
  firstOf
    [do universal; pure 0,
     do char 'Z'; pure 0,
     do char 'z'; pure 0,
     do char '+'; hoursMinutes,
     do char '-'; let n ← hoursMinutes; pure (-n),
     do char '\u2212'; let n ← hoursMinutes; pure (-n)]

/-- The sign between a date and a time of day. -/
def dateTimeSign : Scanner Unit := firstOf [char 'T', char 't', char ' ']

/-- A date, a time of day and an offset of less than a day, by which the date must not leave the
calendar. -/
def moment : Scanner Moment := do
  let day ← date
  dateTimeSign
  let (second, nanos) ← timeOfDay
  blanks
  let ahead ← offset
  blanks
  let instant : Instant := ⟨day.days * 86400 + second - ahead, nanos⟩
  if ahead.natAbs < 86400 ∧ Date.isYear instant.date.civil.year then pure ⟨instant, ahead⟩
  else fail

end Time

/-- The date that a text stands for. -/
def Date.read? (s : String) : Option Date := Time.date.whole? s.toList

/-- The moment that a text stands for. -/
def Moment.read? (s : String) : Option Moment := Time.moment.whole? s.toList

end MetricQuery

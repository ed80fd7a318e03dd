import MetricQuery.Time.Date

/-!
# Instants and moments

An instant is a point of time to the nanosecond; a moment is an instant seen from a place whose
clock is ahead of universal time by some seconds.  In a leap second the count of nanoseconds goes
on past a thousand million, and the clock shows the sixtieth second.

* `Instant.text`   : the instant in universal time, with its offset `+00:00`;
* `Instant.bound`  : the instant as the clause language writes it;
* `Moment.text`    : the local time with its offset;
* `Instant.hourBefore` : the instant an hour earlier.
-/

set_option autoImplicit false

namespace MetricQuery

/-- A point of time: seconds since 1970-01-01T00:00:00Z and nanoseconds into the second. -/
structure Instant where
  seconds : Int
  nanos : Nat
  deriving DecidableEq, Repr

/-- An instant and the seconds by which the local clock is ahead of universal time. -/
structure Moment where
  instant : Instant
  offset : Int
  deriving DecidableEq, Repr

/-- How many nanoseconds a second has. -/
def nanosPerSecond : Nat := 1000000000

namespace Instant

/-- Whether the instant lies in a leap second. -/
def isLeap (t : Instant) : Bool := nanosPerSecond ≤ t.nanos

/-- The day of an instant. -/
def date (t : Instant) : Date := ⟨t.seconds / 86400⟩

/-- Hours, minutes and seconds, a leap second being the sixtieth. -/
def clock (t : Instant) : String :=
  let second := (t.seconds % 86400).toNat
  padded 2 (second / 3600) ++ ":" ++ padded 2 (second / 60 % 60) ++ ":" ++
    padded 2 (second % 60 + if t.isLeap then 1 else 0)

/-- The fraction of the second: none, or three, six or nine digits. -/
def fraction (t : Instant) : String :=
  let n := t.nanos % nanosPerSecond
  if n = 0 then ""
  else if n % 1000000 = 0 then "." ++ padded 3 (n / 1000000)
  else if n % 1000 = 0 then "." ++ padded 6 (n / 1000)
  else "." ++ padded 9 n

/-- Date and time of day without an offset. -/
def civilText (t : Instant) : String := t.date.text ++ "T" ++ t.clock ++ t.fraction

/-- The instant in universal time. -/
def text (t : Instant) : String := t.civilText ++ "+00:00"

/-- The instant as the clause language writes it: whole seconds without a fraction, any other
instant with six digits of it. -/
def bound (t : Instant) : String :=
  t.date.text ++ "T" ++ t.clock ++
    if t.nanos = 0 then "" else "." ++ padded 6 (t.nanos % nanosPerSecond / 1000)

/-- The instant an hour earlier.  Going back out of a leap second counts it as part of the next
second. -/
def hourBefore (t : Instant) : Instant :=
  if t.isLeap then ⟨t.seconds + 1 - 3600, t.nanos - nanosPerSecond⟩
  else ⟨t.seconds - 3600, t.nanos⟩

end Instant

namespace Moment

/-- An instant in universal time. -/
def utc (t : Instant) : Moment := ⟨t, 0⟩

/-- What the local clock shows, as if it were universal time. -/
def wall (m : Moment) : Instant := ⟨m.instant.seconds + m.offset, m.instant.nanos⟩

/-- The offset in hours and minutes, and in seconds where there are any. -/
def offsetText (m : Moment) : String :=
  let n := m.offset.natAbs
  (if m.offset < 0 then "-" else "+") ++ padded 2 (n / 3600) ++ ":" ++ padded 2 (n / 60 % 60) ++
    if n % 60 = 0 then "" else ":" ++ padded 2 (n % 60)

/-- The local time with its offset. -/
def text (m : Moment) : String := m.wall.civilText ++ m.offsetText

/-- Two moments are the same point of time, wherever they are seen from. -/
def sameInstant (a b : Moment) : Bool := a.instant == b.instant

end Moment

end MetricQuery

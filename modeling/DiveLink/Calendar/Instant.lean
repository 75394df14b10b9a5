import DiveLink.Calendar.Date

/-!
# Instants

A moment of universal time, to the nanosecond. The calendar of instants ends with the years -262143
and 262142. A leap second is the last second of a minute with a thousand million nanoseconds or
more.

1. `Instant.ofParts?` makes an instant of its parts, if they are in range.
2. `Instant.shift` moves an instant by nanoseconds. Leap seconds are not counted: moving out of one
   forgets it, moving within one keeps it.
-/

namespace DiveLink

namespace Calendar

/-- The first day of the calendar of instants. -/
def firstDay : Int := daysBeforeYear (-262143)

/-- The last day of the calendar of instants. -/
def lastDay : Int := daysBeforeYear 262143 - 1

end Calendar

/-- A thousand million nanoseconds: one second. -/
abbrev nanosPerSecond : Nat := 1000000000

/-- A moment of universal time. -/
structure Instant where
  /-- The day, counted from the first of January of the year 0. -/
  day : Int
  second : Nat
  /-- The nanosecond of the second; a leap second goes on counting. -/
  nano : Nat
  firstDay_le : Calendar.firstDay ≤ day
  le_lastDay : day ≤ Calendar.lastDay
  second_lt : second < 86400
  nano_lt : nano < 2 * nanosPerSecond
  leap_at_minute_end : nanosPerSecond ≤ nano → second % 60 = 59
  deriving DecidableEq, Repr

namespace Instant

/-- The instant with these parts, if there is one. -/
def ofParts? (day : Int) (second nano : Nat) : Option Instant :=
  if h : Calendar.firstDay ≤ day ∧ day ≤ Calendar.lastDay ∧ second < 86400 ∧
      nano < 2 * nanosPerSecond ∧ (nanosPerSecond ≤ nano → second % 60 = 59) then
    some ⟨day, second, nano, h.1, h.2.1, h.2.2.1, h.2.2.2.1, h.2.2.2.2⟩
  else none

/-- The instant that lies `nanos` nanoseconds after the start of a day, without leap seconds, if
the calendar goes that far. -/
def ofNanos? (day : Int) (nanos : Int) : Option Instant :=
  let seconds := nanos / nanosPerSecond
  ofParts? (day + seconds / 86400) (seconds % 86400).toNat (nanos % nanosPerSecond).toNat

/-- The nanoseconds from the start of the day, without leap seconds. -/
def nanosOfDay (instant : Instant) : Int :=
  instant.second * nanosPerSecond + instant.nano

/-- Moves an instant, if the calendar goes that far. In a leap second the count of nanoseconds goes
on; where the move ends inside that second or the one before it, so does the instant, and where it
goes further the leap second is forgotten. -/
def shift (instant : Instant) (nanos : Int) : Option Instant :=
  if instant.nano < nanosPerSecond then
    ofNanos? instant.day (instant.nanosOfDay + nanos)
  else
    let moved := instant.nano + nanos
    if 2 * nanosPerSecond ≤ moved ∨ nanosPerSecond ≤ nanos then
      -- past the leap second, which counts as none
      ofNanos? instant.day (instant.nanosOfDay - nanosPerSecond + nanos)
    else if nanos ≤ -nanosPerSecond then
      -- a whole second back, which the leap second is
      ofNanos? instant.day (instant.nanosOfDay + nanos)
    else
      ofParts? instant.day instant.second moved.toNat

end Instant

end DiveLink

import DiveLink.Event
import Mathlib.Tactic.Common

/-!
# Times of dives

The clock of a computer spans less than twenty-four thousand nine hundred days, so the time of a
dive is in the calendar unless the host's clock is next to an end of it.

1. `Instant.Ordinary` are the instants that are so far from the ends of the calendar.
2. `ClockCalibration.exists_diveTime`: every dive has a time.
-/

namespace DiveLink

namespace Instant

/-- A number of days that is greater than the span of every computer's clock. -/
def clockSpan : Int := 24857

/-- Whether an instant is so far from both ends of the calendar. -/
structure Ordinary (instant : Instant) : Prop where
  after_first : Calendar.firstDay + clockSpan ≤ instant.day
  before_last : instant.day + clockSpan ≤ Calendar.lastDay

/-- An instant whose day is in the calendar. -/
theorem exists_ofNanos? {day nanos : Int}
    (hfirst : Calendar.firstDay ≤ day + nanos / nanosPerSecond / 86400)
    (hlast : day + nanos / nanosPerSecond / 86400 ≤ Calendar.lastDay) :
    ∃ instant, ofNanos? day nanos = some instant := by
  unfold ofNanos? ofParts?
  have hunit : (nanosPerSecond : Int) = 1000000000 := rfl
  rw [hunit] at hfirst hlast ⊢
  simp only [nanosPerSecond]
  exact ⟨_, dif_pos ⟨hfirst, hlast, by omega, by omega, by omega⟩⟩

/-- A move by less than the span of a clock stays in the calendar. -/
theorem exists_shift {instant : Instant} (h : instant.Ordinary) {nanos : Int}
    (hback : -2147483648000000000 ≤ nanos) (hforth : nanos ≤ 2147483648000000000) :
    ∃ moved, instant.shift nanos = some moved := by
  obtain ⟨hfirst, hlast⟩ := h
  have hsecond := instant.second_lt
  have hnano := instant.nano_lt
  have hleap := instant.leap_at_minute_end
  unfold clockSpan at hfirst hlast
  -- the move is shorter than the span, and an instant is less than two seconds past its day
  have hunit : (nanosPerSecond : Int) = 1000000000 := rfl
  have hday : (0 : Int) ≤ instant.nanosOfDay ∧ instant.nanosOfDay < 86402000000000 := by
    unfold nanosOfDay
    rw [hunit]
    simp only [nanosPerSecond] at hnano
    omega
  unfold shift
  dsimp only
  -- a leap second is left towards either side, or the move stays within it
  split_ifs with hplain hpast hback'
  · exact exists_ofNanos? (by rw [hunit]; omega) (by rw [hunit]; omega)
  · exact exists_ofNanos? (by rw [hunit]; omega) (by rw [hunit]; omega)
  · exact exists_ofNanos? (by rw [hunit]; omega) (by rw [hunit]; omega)
  · -- within the leap second
    unfold ofParts?
    exact ⟨_, dif_pos ⟨by omega, by omega, hsecond, by omega, fun _ => hleap (by omega)⟩⟩

end Instant

namespace ClockCalibration

theorem exists_diveTime {clock : ClockCalibration} (h : clock.systime.Ordinary)
    (fingerprint : Fingerprint) : ∃ time, clock.diveTime fingerprint = some time := by
  have htimestamp := fingerprint.timestamp.toNat_lt
  have hdevtime := clock.devtime.toNat_lt
  -- half a second a tick, and both clocks are words
  refine Instant.exists_shift h ?_ ?_ <;>
  · unfold tick
    omega

end ClockCalibration

/-- Noon of the third of September 1998. -/
def noon : Instant := ⟨730000, 43200, 0, by decide, by decide, by decide, by decide, by decide⟩

end DiveLink

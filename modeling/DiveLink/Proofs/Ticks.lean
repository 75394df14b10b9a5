import DiveLink.Json.Schema
import DiveLink.Listing
import DiveLink.Proofs.Times
import DiveLink.Proofs.Timestamps

/-!
# The time of a timestamp is exact

A computer counts half seconds, an instant counts nanoseconds, and the difference of two counts may
have either sign. Whatever the two counts are, the time of a timestamp is the host's time and so many
half seconds, to the nanosecond, or it lies outside of the calendar.

1. `Instant.nanos` counts the nanoseconds of an instant. `shift_eq_some_iff` and
   `shift_eq_none_iff`: outside of leap seconds a move is an addition, as long as the calendar goes.
2. `millisBack` is the difference as a machine computes it, in words with a sign and with a division.
   `datetime_eq_shift_millisBack`: nothing of it is lost.
3. `datetime_exact`: times are exact, and a row of a listing says them exactly.
-/

namespace DiveLink

/-! ## §1 Nanoseconds -/

/-- The nanoseconds of a day without a leap second. -/
abbrev nanosPerDay : Nat := 86400000000000

namespace Calendar

/-- Whether a nanosecond, counted from the start of the year 0, is one of the calendar. -/
def HasNano (nano : Int) : Prop :=
  firstDay * nanosPerDay ≤ nano ∧ nano < (lastDay + 1) * nanosPerDay

end Calendar

namespace Instant

/-- The nanoseconds from the start of the year 0, without leap seconds. -/
def nanos (instant : Instant) : Int :=
  instant.day * nanosPerDay + instant.nanosOfDay

/-- Whether the instant lies outside of leap seconds. -/
def IsPlain (instant : Instant) : Prop := instant.nano < nanosPerSecond

theorem ofParts?_eq_some_iff {day : Int} {second nano : Nat} {instant : Instant} :
    ofParts? day second nano = some instant ↔
      instant.day = day ∧ instant.second = second ∧ instant.nano = nano := by
  constructor
  · intro h
    unfold ofParts? at h
    split at h
    · obtain rfl := Option.some.inj h
      exact ⟨rfl, rfl, rfl⟩
    · cases h
  · rintro ⟨rfl, rfl, rfl⟩
    exact Rfc3339.ofParts?_self instant

/-- Nanoseconds after the start of a day are those of one plain instant. -/
theorem ofNanos?_eq_some_iff {day nanos : Int} {instant : Instant} :
    ofNanos? day nanos = some instant ↔
      instant.IsPlain ∧ instant.nanos = day * nanosPerDay + nanos := by
  have hsecond := instant.second_lt
  have hunit : (nanosPerSecond : Int) = 1000000000 := rfl
  have hday : (nanosPerDay : Int) = 86400000000000 := rfl
  -- days, seconds and nanoseconds are quotients and remainders of one number
  unfold ofNanos?
  dsimp only
  rw [ofParts?_eq_some_iff]
  unfold IsPlain Instant.nanos nanosOfDay
  rw [hunit, hday]
  simp only [nanosPerSecond]
  omega

theorem ofNanos?_eq_none_iff {day nanos : Int} :
    ofNanos? day nanos = none ↔ ¬ Calendar.HasNano (day * nanosPerDay + nanos) := by
  have hunit : (nanosPerSecond : Int) = 1000000000 := rfl
  have hday : (nanosPerDay : Int) = 86400000000000 := rfl
  unfold Calendar.HasNano
  rw [hday]
  cases h : ofNanos? day nanos with
  | none =>
    simp only [true_iff]
    rintro ⟨hfirst, hlast⟩
    -- its day would be a day of the calendar
    obtain ⟨instant, hsome⟩ : ∃ instant, ofNanos? day nanos = some instant :=
      exists_ofNanos? (by rw [hunit]; omega) (by rw [hunit]; omega)
    rw [h] at hsome
    cases hsome
  | some instant =>
    simp only [reduceCtorEq, false_iff, not_not]
    obtain ⟨hplain, hnanos⟩ := ofNanos?_eq_some_iff.mp h
    have hfirst := instant.firstDay_le
    have hlast := instant.le_lastDay
    have hsecond := instant.second_lt
    unfold IsPlain at hplain
    unfold Instant.nanos nanosOfDay at hnanos
    rw [hunit, hday] at hnanos
    simp only [nanosPerSecond] at hplain
    omega

variable {instant : Instant} (hplain : instant.IsPlain)

include hplain

theorem IsPlain.shift_eq (nanos : Int) :
    instant.shift nanos = ofNanos? instant.day (instant.nanosOfDay + nanos) :=
  if_pos hplain

/-- **Outside of leap seconds a move is an addition.** -/
theorem IsPlain.shift_eq_some_iff {nanos : Int} {moved : Instant} :
    instant.shift nanos = some moved ↔ moved.IsPlain ∧ moved.nanos = instant.nanos + nanos := by
  rw [hplain.shift_eq, ofNanos?_eq_some_iff, ← Int.add_assoc]
  rfl

/-- **It fails exactly if it leads out of the calendar.** -/
theorem IsPlain.shift_eq_none_iff {nanos : Int} :
    instant.shift nanos = none ↔ ¬ Calendar.HasNano (instant.nanos + nanos) := by
  rw [hplain.shift_eq, ofNanos?_eq_none_iff, ← Int.add_assoc]
  rfl

end Instant

/-! ## §2 Half seconds in words of the machine -/

namespace ClockCalibration

/-- The milliseconds from a timestamp to the reading of the clock, computed in words of 64 bits with
a sign: a thousand milliseconds for two counts. -/
def millisBack (clock : ClockCalibration) (timestamp : UInt32) : Int64 :=
  (clock.devtime.toUInt64.toInt64 - timestamp.toUInt64.toInt64) * 1000 / 2

/-- A word keeps its value where it gets a sign and more room. -/
theorem toInt_toInt64_toUInt64 (word : UInt32) : word.toUInt64.toInt64.toInt = word.toNat := by
  have hword := word.toNat_lt
  -- a word of 32 bits leaves the sign of one of 64 bits unset
  have hnat : word.toUInt64.toBitVec.toNat = word.toNat := word.toNat_toUInt64
  change word.toUInt64.toBitVec.toInt = word.toNat
  rw [BitVec.toInt_eq_toNat_of_lt (by omega), hnat]

/-- **No step of the computation wraps around, and the division leaves no remainder.** -/
theorem toInt_millisBack (clock : ClockCalibration) (timestamp : UInt32) :
    (clock.millisBack timestamp).toInt = (clock.devtime.toNat - timestamp.toNat : Int) * 500 := by
  have hdevtime := clock.devtime.toNat_lt
  have htimestamp := timestamp.toNat_lt
  -- the difference, the product and the quotient, each with its bounds
  have hticks : (clock.devtime.toUInt64.toInt64 - timestamp.toUInt64.toInt64).toInt =
      (clock.devtime.toNat - timestamp.toNat : Int) := by
    rw [Int64.toInt_sub, toInt_toInt64_toUInt64, toInt_toInt64_toUInt64, Int.bmod_eq_of_le] <;>
      omega
  have hthousand : ((clock.devtime.toUInt64.toInt64 - timestamp.toUInt64.toInt64) * 1000).toInt =
      (clock.devtime.toNat - timestamp.toNat : Int) * 500 * 2 := by
    have hvalue : (1000 : Int64).toInt = 1000 := rfl
    rw [Int64.toInt_mul, hticks, hvalue, Int.bmod_eq_of_le] <;> omega
  have htwo : (2 : Int64).toInt = 2 := rfl
  rw [millisBack, Int64.toInt_div_of_ne_right _ _ (by decide), hthousand, htwo,
    Int.mul_tdiv_cancel _ (by decide)]

/-- The time of a timestamp lies so many milliseconds before the host's time. -/
theorem datetime_eq_shift_millisBack (clock : ClockCalibration) (timestamp : UInt32) :
    clock.datetime timestamp =
      clock.systime.shift (-((clock.millisBack timestamp).toInt * 1000000)) := by
  rw [toInt_millisBack, datetime, tick]
  congr 1
  omega

/-! ## §3 Times -/

/-- The time of a row is printed so that it can be read again. -/
theorem exists_text_of_withClock {clock : ClockCalibration} {row dated : DiveSummary}
    (h : row.withClock clock = some dated) :
    ∃ time text members, clock.datetime row.fingerprint.timestamp = some time ∧
      dated.toTree = .object members ∧ members.lookup "datetime" = some (.string text) ∧
      Json.instantOf text = .ok time := by
  obtain ⟨time, htime, rfl⟩ := Option.map_eq_some_iff.mp h
  refine ⟨time, Rfc3339.offset time, _, htime, rfl, rfl, ?_⟩
  rw [Json.instantOf, Rfc3339.read_offset]
  rfl

/-- **The time of a timestamp is exact.** The host's clock may show any instant outside of leap
seconds, and the two counts may be any words. The time lies so many half seconds behind the host's
time, or before it, and the milliseconds to it are computed without loss in words of 64 bits. There
is no such time exactly if the calendar does not go that far. So two times lie as many half seconds
apart as their timestamps, and the later timestamp has the later time. What a row of a listing says
is read as that very time where the record beside a dump is read. -/
theorem datetime_exact (clock : ClockCalibration) (hplain : clock.systime.IsPlain) :
    (∀ timestamp,
      (clock.millisBack timestamp).toInt = (clock.devtime.toNat - timestamp.toNat : Int) * 500 ∧
        clock.datetime timestamp =
          clock.systime.shift (-((clock.millisBack timestamp).toInt * 1000000))) ∧
      (∀ timestamp time, clock.datetime timestamp = some time ↔
        time.IsPlain ∧ time.nanos =
          clock.systime.nanos + (timestamp.toNat - clock.devtime.toNat : Int) * 500000000) ∧
      (∀ timestamp, clock.datetime timestamp = none ↔
        ¬ Calendar.HasNano
          (clock.systime.nanos + (timestamp.toNat - clock.devtime.toNat : Int) * 500000000)) ∧
      (∀ timestamp other time otherTime, clock.datetime timestamp = some time →
        clock.datetime other = some otherTime →
        otherTime.nanos - time.nanos = (other.toNat - timestamp.toNat : Int) * 500000000 ∧
          (timestamp < other → time.nanos < otherTime.nanos)) ∧
      ∀ row dated, DiveSummary.withClock clock row = some dated →
        ∃ time text members, clock.datetime row.fingerprint.timestamp = some time ∧
          dated.toTree = .object members ∧ members.lookup "datetime" = some (.string text) ∧
          Json.instantOf text = .ok time := by
  -- a time is a move of the host's time, so what a move gives settles the rest
  have hsome (timestamp : UInt32) (time : Instant) : clock.datetime timestamp = some time ↔
      time.IsPlain ∧ time.nanos =
        clock.systime.nanos + (timestamp.toNat - clock.devtime.toNat : Int) * 500000000 :=
    hplain.shift_eq_some_iff
  refine ⟨?_, hsome, ?_, ?_, ?_⟩
  · intro timestamp
    exact ⟨clock.toInt_millisBack timestamp, clock.datetime_eq_shift_millisBack timestamp⟩
  · intro timestamp
    exact hplain.shift_eq_none_iff
  · -- the host's time and the reading of the clock cancel out
    intro timestamp other time otherTime htime hother
    obtain ⟨-, htime⟩ := (hsome timestamp time).mp htime
    obtain ⟨-, hother⟩ := (hsome other otherTime).mp hother
    refine ⟨by omega, fun hlt => ?_⟩
    rw [UInt32.lt_iff_toNat_lt] at hlt
    omega
  · intro row dated
    exact exists_text_of_withClock

/-- The last nanosecond of the calendar. -/
def lastMoment : Instant :=
  ⟨Calendar.lastDay, 86399, 999999999, by decide, by decide, by decide, by decide, by decide⟩

/-- If the host's clock shows it, the calendar has no time for the next count. -/
theorem datetime_exact_lastMoment :
    lastMoment.IsPlain ∧ datetime ⟨7, lastMoment⟩ 7 = some lastMoment ∧
      datetime ⟨7, lastMoment⟩ 8 = none := by
  have hplain : lastMoment.IsPlain := by unfold Instant.IsPlain; decide
  obtain ⟨_, hsome, hnone, _, _⟩ := datetime_exact ⟨7, lastMoment⟩ hplain
  refine ⟨hplain, (hsome 7 lastMoment).mpr ⟨hplain, by decide⟩, (hnone 8).mpr ?_⟩
  unfold Calendar.HasNano
  decide

end ClockCalibration

end DiveLink

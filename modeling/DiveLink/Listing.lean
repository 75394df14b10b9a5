import DiveLink.Event
import DiveLink.Dive.Scan
import DiveLink.Fingerprint
import DiveLink.Json.Tree

/-!
# Listings of dives

1. `DiveSummary` is a row of a listing: the dive's number, its place and size in the dump, its
   fingerprint and, where a pair of clocks is known, its time.
2. `DiveSummary.toTree` is the row in JSON.
-/

namespace DiveLink

/-- A row of a listing. -/
structure DiveSummary where
  /-- One for the newest dive. -/
  number : Nat
  offset : Nat
  size : Nat
  fingerprint : Fingerprint
  datetime : Option Instant
  deriving DecidableEq, Repr

namespace DiveSummary

/-- The row of a dive without its time. -/
def ofDive (number : Nat) (dive : Dive) : DiveSummary :=
  ⟨number, dive.offset, dive.size, Fingerprint.ofDive dive, none⟩

/-- The row with the time of the dive, if the calendar goes that far. -/
def withClock (clock : ClockCalibration) (row : DiveSummary) : Option DiveSummary :=
  (clock.diveTime row.fingerprint).map fun time => { row with datetime := some time }

/-- The row with the time of the dive where a pair of clocks is known. -/
def timed (clock : Option ClockCalibration) (row : DiveSummary) : Option DiveSummary :=
  match clock with
  | none => some row
  | some clock => row.withClock clock

open Json in
def toTree (row : DiveSummary) : Tree :=
  .object [
    ("number", .number (.natural row.number)),
    ("offset", .number (.natural row.offset)),
    ("size", .number (.natural row.size)),
    ("fingerprint", .string row.fingerprint.text),
    ("datetime", match row.datetime with
      | none => .null
      | some time => .string (Rfc3339.offset time))]

end DiveSummary

/-- The rows of dives, numbered from one. -/
def rowsOf (dives : List Dive) : List DiveSummary :=
  dives.zipIdx.map fun (dive, index) => DiveSummary.ofDive (index + 1) dive

end DiveLink

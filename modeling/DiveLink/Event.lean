import DiveLink.Calendar.Rfc3339
import DiveLink.Fingerprint
import DiveLink.Text.Decimal

/-!
# Events of a download

What a session tells while it runs: how far it is, the pair of clocks it read, and which computer
it talks to.

1. `ClockCalibration` is a pair of clocks. A computer counts half seconds from a moment of its own,
   and `ClockCalibration.datetime` is the time of one of its timestamps, if the calendar goes that
   far.
2. `Event` is one of the three, `Event.message` words it for a reader.
3. `Progress.percent` is computed in single precision; the message rounds it to a whole number, a
   half to the even one.
4. `EventLog` keeps events in their order and finds the last of a topic.
-/

namespace DiveLink

/-! ## §1 The clock of a computer -/

/-- A count of the computer's clock and the host's time at the same moment. -/
structure ClockCalibration where
  devtime : UInt32
  systime : Instant
  deriving DecidableEq, Repr

namespace ClockCalibration

/-- The nanoseconds of one count: half a second. -/
def tick : Int := 500000000

/-- The time at which the computer's clock shows `timestamp`. -/
def datetime (clock : ClockCalibration) (timestamp : UInt32) : Option Instant :=
  clock.systime.shift ((timestamp.toNat - clock.devtime.toNat : Int) * tick)

/-- The time of a dive. -/
def diveTime (clock : ClockCalibration) (fingerprint : Fingerprint) : Option Instant :=
  clock.datetime fingerprint.timestamp

end ClockCalibration

/-! ## §2 Events -/

/-- How far a download is; the maximum is zero while it is not known. -/
structure Progress where
  current : UInt32
  maximum : UInt32
  deriving DecidableEq, Repr

/-- Which computer answered. -/
structure DeviceInfo where
  model : UInt32
  firmware : UInt32
  serial : UInt32
  deriving DecidableEq, Repr

/-- An event of a download. -/
inductive Event where
  | progress (progress : Progress)
  | clock (clock : ClockCalibration)
  | devinfo (info : DeviceInfo)
  deriving DecidableEq, Repr

/-! ### Percent -/

namespace Progress

/-- The share that is done, in percent. -/
def percent (progress : Progress) : Float32 :=
  if progress.maximum = 0 then 0
  else progress.current.toFloat32 / progress.maximum.toFloat32 * 100

end Progress

/-- The whole number nearest to a fraction; of two, the even one. -/
def nearestEven (numerator denominator : Nat) : Nat :=
  let quotient := numerator / denominator
  let twice := 2 * (numerator % denominator)
  if twice < denominator ∨ (twice = denominator ∧ quotient % 2 = 0) then quotient else quotient + 1

/-- The whole number nearest to a single precision number that is neither negative nor infinite.
Such a number is a count of units that are a power of two. -/
def wholeNumber (x : Float32) : Nat :=
  let bits := x.toBits.toNat
  let exponent := bits / 8388608
  let count := bits % 8388608 + (if exponent = 0 then 0 else 8388608)
  let unit := max exponent 1
  if 150 ≤ unit then count * Nat.pow 2 (unit - 150)
  else nearestEven count (Nat.pow 2 (150 - unit))

/-! ### Wording -/

namespace Event

/-- The share that is done, if the event tells it. -/
def percent : Event → Option Float32
  | progress p => some p.percent
  | _ => none

def message : Event → String
  | progress p =>
    if p.maximum = 0 then "Connecting to device..."
    else "Downloading... " ++ Decimal.text (wholeNumber p.percent) ++ "%"
  | clock c =>
    "Device clock: devtime=" ++ Decimal.text c.devtime.toNat ++ " systime=" ++
      Rfc3339.offset c.systime
  | devinfo info =>
    "Device: model=" ++ Decimal.text info.model.toNat ++ " firmware=" ++
      Decimal.text info.firmware.toNat ++ " serial=" ++ Hex.upperWord info.serial

end Event

/-! ## §3 Logs -/

/-- Events in the order in which they came. -/
structure EventLog where
  events : List Event
  deriving DecidableEq, Repr

namespace EventLog

def empty : EventLog := ⟨[]⟩

/-- The log with one event more. -/
def push (log : EventLog) (event : Event) : EventLog := ⟨log.events ++ [event]⟩

/-- What the log says about progress. -/
def progress (log : EventLog) : List Progress :=
  log.events.filterMap fun
    | .progress p => some p
    | _ => none

/-- The computer that the log names last. -/
def lastDevinfo (log : EventLog) : Option DeviceInfo :=
  log.events.reverse.findSome? fun
    | .devinfo info => some info
    | _ => none

/-- The pair of clocks that the log has last. -/
def lastClock (log : EventLog) : Option ClockCalibration :=
  log.events.reverse.findSome? fun
    | .clock c => some c
    | _ => none

end EventLog

end DiveLink

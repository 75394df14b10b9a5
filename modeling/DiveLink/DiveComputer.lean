import DiveLink.Dive.Scan
import DiveLink.Session

/-!
# Dive computers

What every dive computer offers to the commands, whatever stands behind it.

1. `DiveComputer` are the types that offer it. A `Session` is one of them.
2. `Prepared` is a computer whose dump, identity and clock are given beforehand.
-/

namespace DiveLink

/-- What a dump left. -/
structure Dumped (δ : Type) where
  computer : δ
  buffer : Bytes
  fault : Option Fault
  warnings : List Warning

/-- What a visit to the dives left. -/
structure Visited (δ τ : Type) where
  computer : δ
  state : τ
  fault : Option Fault
  warnings : List Warning

/-- Types that offer what a dive computer does. -/
class DiveComputer (δ : Type) where
  family : δ → Family
  /-- Chooses the fingerprint after which dives are wanted. -/
  setFingerprint : δ → Bytes → Except Fault Unit × δ
  /-- Fetches the dives into a buffer. -/
  dump : Surroundings → δ → Bytes → Dumped δ
  /-- Fetches the dives and hands them to a visitor, newest first. -/
  visit : {τ : Type} → Surroundings → δ → (τ → Dive → τ × Bool) → τ → Visited δ τ
  identity : δ → Option DeviceInfo
  /-- The pair of clocks of the last answer. -/
  clock : δ → Option ClockCalibration

/-- The fault that a result holds. -/
def faultOf? {α : Type} : Except Fault α → Option Fault
  | .error fault => some fault
  | .ok _ => none

/-- Hands the dives of a dump to a visitor, if the dump has no fault. -/
def Dumped.visit {δ τ : Type} (dumped : Dumped δ) (visitor : τ → Dive → τ × Bool) (state : τ) :
    Visited δ τ :=
  match dumped.fault with
  | some fault => ⟨dumped.computer, state, some fault, dumped.warnings⟩
  | none =>
    let (state, overrun) := Dive.extract dumped.buffer visitor state
    ⟨dumped.computer, state, overrun.map Overrun.fault, dumped.warnings⟩

namespace Session

variable {σ : Type} [ReportLink σ]

/-- A dump of a session, for a caller that wants to know what it left. -/
def dumped (around : Surroundings) (session : Session σ) (buffer : Bytes) : Dumped (Session σ) :=
  let (result, dumping) := session.dump around buffer
  ⟨dumping.session, dumping.buffer, faultOf? result, dumping.warnings⟩

end Session

instance {σ : Type} [ReportLink σ] : DiveComputer (Session σ) where
  family := Session.family
  setFingerprint := Session.setFingerprint
  dump := Session.dumped
  visit around session visitor state := (session.dumped around []).visit visitor state
  identity := Session.info
  clock := Session.clock

/-- A computer of which everything is given beforehand. -/
structure Prepared where
  memory : Bytes
  info : Option DeviceInfo
  clock : Option ClockCalibration
  /-- The fault of every choice of a fingerprint. -/
  refusal : Option Fault
  /-- The fault of every dump. -/
  failure : Option Fault
  /-- The fingerprints that were handed in. -/
  cursors : List Bytes
  deriving DecidableEq, Repr

namespace Prepared

/-- A dump of the prepared memory. -/
def dumped (computer : Prepared) (buffer : Bytes) : Dumped Prepared :=
  match computer.failure with
  | some fault => ⟨computer, buffer, some fault, []⟩
  | none => ⟨computer, computer.memory, none, []⟩

/-- Keeps the fingerprint that was handed in. -/
def setFingerprint (computer : Prepared) (data : Bytes) : Except Fault Unit × Prepared :=
  let computer := { computer with cursors := computer.cursors ++ [data] }
  match computer.refusal with
  | some fault => (.error fault, computer)
  | none => (.ok (), computer)

end Prepared

instance : DiveComputer Prepared where
  family _ := .scubaproG2
  setFingerprint := Prepared.setFingerprint
  dump _ := Prepared.dumped
  visit _ computer visitor state := (computer.dumped []).visit visitor state
  identity := Prepared.info
  clock := Prepared.clock

end DiveLink

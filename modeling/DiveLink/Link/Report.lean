import DiveLink.Fault

/-!
# Reports

Host and computer exchange reports of sixty-four bytes. The first byte of a report says how many of
the others are its payload.

1. `Report.carrying` is the report with a given payload; `Reading.payload` takes the payload out of
   what a link read, or says what is wrong with it.
2. `ReportLink` is what a link to a computer can do: write a packet and read a report. A link may
   send reports without payload, but not for ever: its `patience` shrinks with each. This is what
   ends the reading of an answer.
3. `packet` puts a command into a packet.
-/

namespace DiveLink

/-- The size of every report. -/
def reportSize : Nat := 64

/-- The size of the longest command. -/
def commandLimit : Nat := 62

/-- A report. -/
structure Report where
  bytes : Bytes
  length_bytes : bytes.length = reportSize
  deriving DecidableEq, Repr

namespace Report

/-- The report that starts with these bytes; zeros fill it up, and what does not fit is left out. -/
def ofFront (front : Bytes) : Report where
  bytes := front.take reportSize ++ List.replicate (reportSize - front.length) 0
  length_bytes := by
    simp only [List.length_append, List.length_take, List.length_replicate]; omega

/-- The report with this payload, of at most sixty-three bytes. -/
def carrying (payload : Bytes) : Report :=
  ofFront (UInt8.ofNat payload.length :: payload)

/-- The size of the payload that the report claims. -/
def claimedSize (report : Report) : Nat :=
  (report.bytes.headD 0).toNat

end Report

/-- What one read gave: a report, and how many of its bytes were transferred. -/
structure Reading where
  count : Nat
  report : Report
  deriving DecidableEq, Repr

namespace Reading

/-- A report that was transferred whole. -/
def whole (report : Report) : Reading := ⟨reportSize, report⟩

/-- The payload of a reading. The report has to be whole, and then the payload must not be longer
than the report. -/
def payload (reading : Reading) : Except Fault Bytes :=
  if reading.count ≠ reportSize then
    .error (.incompleteTransfer reportSize reading.count)
  else if reportSize ≤ reading.report.claimedSize then
    .error (.protocol (.impossibleSize reading.report.claimedSize))
  else
    .ok ((reading.report.bytes.drop 1).take reading.report.claimedSize)

end Reading

/-- A link to a computer. A link from which reports without payload would come for ever is none, also
where they come behind the last report that is read. No row of results that comes to an end is lost
by this: all of them can be given to a link beforehand. -/
class ReportLink (σ : Type) where
  /-- Writes a packet and says how many bytes of it were transferred. -/
  write : σ → Bytes → Except Fault Nat × σ
  read : σ → Except Fault Reading × σ
  /-- A bound on the reports without payload that come next. -/
  patience : σ → Nat
  /-- Each report without payload uses patience up. -/
  patience_lt : ∀ (link : σ) (reading : Reading) (rest : σ),
    read link = (.ok reading, rest) → reading.payload = .ok [] → patience rest < patience link

/-- The packet of a command: its size and its bytes. -/
def packet (command : Bytes) : Except Fault Bytes :=
  if commandLimit < command.length then
    .error (.invalidArgument (.commandTooLong command.length))
  else
    .ok (UInt8.ofNat command.length :: command)

end DiveLink

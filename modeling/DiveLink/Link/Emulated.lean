import DiveLink.Dive
import DiveLink.Link.Command
import DiveLink.Link.Report

/-!
# An emulated computer

The other end of the link: a computer with a memory of dives that answers commands, in reports of
any size, and that can be made to fail.

1. `Emulated` is such a computer. Its log holds dives by timestamp, oldest first.
2. `Emulated.memoryAfter` is what it has to send after a fingerprint.
3. `Emulated.write` takes a command and queues the answer, `Emulated.read` sends the next report.
-/

namespace DiveLink

/-- An emulated computer. -/
structure Emulated where
  model : UInt8 := 0x32
  serial : UInt32 := 12345678
  devtime : UInt32 := 1000000
  /-- Timestamps and payloads of the dives. -/
  dives : List (UInt32 × Bytes) := []
  /-- The commands that were taken. -/
  commands : List Bytes := []
  /-- Announced before a bulk transfer instead of what is right. -/
  totalOverride : Option UInt32 := none
  /-- Answered instead of the size of the dives. -/
  lengthOverride : Option UInt32 := none
  /-- The greatest payload of a report. -/
  chunk : Nat := 63
  /-- Whether a report without payload comes before every other one. -/
  emptyReports : Bool := false
  /-- The read after so many reports transfers only half a report. -/
  shortReadAfter : Option Nat := none
  /-- The first byte of commands that cannot be written. -/
  failWriteOn : Option UInt8 := none
  /-- The payloads that wait to be sent. -/
  outgoing : List Bytes := []
  reportsRead : Nat := 0
  deriving DecidableEq, Repr

/-- Cuts bytes into pieces of `size + 1` bytes; the last one may be shorter. -/
def pieces (size : Nat) (data : Bytes) : List Bytes :=
  if data = [] then [] else data.take (size + 1) :: pieces size (data.drop (size + 1))
termination_by data.length
decreasing_by
  have := List.length_pos_iff.mpr (by assumption)
  simp only [List.length_drop]; omega

namespace Emulated

/-- The records of the dives after a timestamp. -/
def memoryAfter (computer : Emulated) (timestamp : UInt32) : Bytes :=
  (computer.dives.filter fun dive => timestamp < dive.1).flatMap fun dive =>
    Dive.record dive.1 dive.2

/-- The first bytes of the commands that were taken. -/
def opcodes (computer : Emulated) : Bytes := computer.commands.filterMap List.head?

/-- Queues an answer. -/
def queue (computer : Emulated) (answer : Bytes) : Emulated :=
  { computer with outgoing := computer.outgoing ++ pieces (computer.chunk - 1) answer }

/-- The timestamp in a command. -/
def cursorOf (command : Bytes) : UInt32 := Word.front ((command.drop 1).take 4)

/-- Queues the answer to a command. Commands that are not known have none. -/
def answer (computer : Emulated) (command : Bytes) : Emulated :=
  let opcode := command.headD 0
  if opcode = Opcode.model.byte then computer.queue [computer.model]
  else if opcode = Opcode.serial.byte then computer.queue (Word.toBytes computer.serial)
  else if opcode = Opcode.deviceTime.byte then computer.queue (Word.toBytes computer.devtime)
  else if opcode = Opcode.dataLength.byte then
    let memory := computer.memoryAfter (cursorOf command)
    computer.queue (Word.toBytes (computer.lengthOverride.getD (UInt32.ofNat memory.length)))
  else if opcode = Opcode.data.byte then
    let memory := computer.memoryAfter (cursorOf command)
    let total := computer.totalOverride.getD (UInt32.ofNat memory.length + 4)
    (computer.queue (Word.toBytes total)).queue memory
  else computer

/-- Takes a packet. -/
def write (computer : Emulated) (packet : Bytes) : Except Fault Nat × Emulated :=
  let command := (packet.drop 1).take (packet.headD 0).toNat
  if command.head? = computer.failWriteOn then (.error (.link "device unplugged"), computer)
  else
    let answered := computer.answer command
    (.ok packet.length, { answered with commands := answered.commands ++ [command] })

/-- Sends the next report. -/
def read (computer : Emulated) : Except Fault Reading × Emulated :=
  match computer.outgoing with
  | [] => (.error (.link "device has nothing to send"), computer)
  | payload :: waiting =>
    if computer.shortReadAfter = some computer.reportsRead then
      (.ok ⟨reportSize / 2, .ofFront []⟩, computer)
    else
      if computer.emptyReports ∧ computer.reportsRead % 2 = 0 then
        (.ok (.whole (.carrying [])), { computer with reportsRead := computer.reportsRead + 1 })
      else
        (.ok (.whole (.carrying payload)),
          { computer with outgoing := waiting, reportsRead := computer.reportsRead + 1 })

/-- After a report without payload comes one that takes something out of the queue. -/
def patience (computer : Emulated) : Nat :=
  2 * computer.outgoing.length + (1 - computer.reportsRead % 2)

/-- A half report is no report without payload, and every other report uses patience up. -/
theorem patience_lt (computer : Emulated) (reading : Reading) (rest : Emulated)
    (h : computer.read = (.ok reading, rest)) (empty : reading.payload = .ok []) :
    rest.patience < computer.patience := by
  unfold read at h
  split at h
  · simp at h
  · rename_i payload waiting queued
    split at h
    · simp only [Prod.mk.injEq, Except.ok.injEq] at h
      obtain ⟨rfl, _⟩ := h
      simp [Reading.payload, reportSize] at empty
    · split at h
      · rename_i odd
        simp only [Prod.mk.injEq, Except.ok.injEq] at h
        obtain ⟨_, rfl⟩ := h
        simp only [patience]
        omega
      · simp only [Prod.mk.injEq, Except.ok.injEq] at h
        obtain ⟨_, rfl⟩ := h
        simp only [patience, queued, List.length_cons]
        omega

end Emulated

instance : ReportLink Emulated where
  write := Emulated.write
  read := Emulated.read
  patience := Emulated.patience
  patience_lt := Emulated.patience_lt

end DiveLink

import DiveLink.Dive
import DiveLink.Fault

/-!
# Cutting a dump into dives

A dump has no index, so records are found by their marker. The scan runs from the end of the dump
to its front: the newest dive comes first, and a record has to end where the record reported before
it starts, or earlier.

1. `Scan` is the state of a scan, `Scan.next` goes on to the next record.
2. `Scan.seek` finds the next marker below a place.
3. `Scan.visit` hands record after record to a visitor, until the visitor has had enough, the dump
   ends or a record is broken. `Dive.extract` does so for a whole dump.
4. `Dive.all` lists the records of a dump with the fault that ended the scan.
-/

namespace DiveLink

/-- A record that does not fit where it stands: it starts at `offset`, is `length` bytes long and
would have to end by `limit`. -/
structure Overrun where
  offset : Nat
  length : Nat
  limit : Nat
  deriving DecidableEq, Repr

/-- The fault that a broken record raises. -/
def Overrun.fault (overrun : Overrun) : Fault :=
  .dataFormat overrun.offset overrun.length overrun.limit

/-- The state of a scan. -/
structure Scan where
  /-- The dump. -/
  memory : Array UInt8
  /-- Where the record reported last starts; at first the end of the dump. -/
  limit : Nat
  /-- The scan has looked at this place and at all above it. -/
  position : Nat
  /-- The scan is over. -/
  done : Bool
  deriving DecidableEq, Repr

namespace Scan

/-! ## §1 Markers and headers -/

/-- Whether a record starts at this place. -/
def markerAt (memory : Array UInt8) (place : Nat) : Bool :=
  memory[place]? == some 0xA5 && memory[place + 1]? == some 0xA5 &&
    memory[place + 2]? == some 0x5A && memory[place + 3]? == some 0x5A

/-- The highest marker below a place. -/
def seek (memory : Array UInt8) : Nat → Option Nat
  | 0 => none
  | place + 1 => if markerAt memory place then some place else seek memory place

/-- A marker that `seek` finds stands below the place. -/
theorem seek_lt {memory : Array UInt8} {place found : Nat} (h : seek memory place = some found) :
    found < place := by
  induction place with
  | zero => simp [seek] at h
  | succ n ih =>
    unfold seek at h
    split at h
    · simp only [Option.some.injEq] at h; omega
    · have := ih h; omega

/-- The bytes of the dump from one place up to another. -/
def slice (memory : Array UInt8) (start stop : Nat) : Bytes :=
  (memory.extract start stop).toList

/-- The length that the record at `place` claims. -/
def lengthAt (memory : Array UInt8) (place : Nat) : Nat :=
  (Word.front (slice memory (place + Dive.lengthPlace) (place + Dive.fingerprintPlace))).toNat

/-! ## §2 The scan -/

/-- The scan of a dump before its first step. -/
def start (memory : Bytes) : Scan where
  memory := memory.toArray
  limit := memory.length
  position := memory.length - Dive.marker.length
  done := false

/-- The record at `place`, or what is wrong with it: its header has to lie inside the dump, and
its end must not be above the limit. -/
def recordAt (scan : Scan) (place : Nat) : Except Overrun Dive :=
  if scan.memory.size < place + Dive.headerSize then
    .error ⟨place, Dive.headerSize, scan.memory.size⟩
  else
    let length := lengthAt scan.memory place
    if scan.limit < place + length then
      .error ⟨place, length, scan.limit⟩
    else
      .ok {
        offset := place
        data := slice scan.memory place (place + length)
        fingerprintBytes := slice scan.memory (place + Dive.fingerprintPlace)
          (place + Dive.headerSize) }

/-- Goes on to the next record. After a record the scan also steps over the place of a marker that
would end where the record starts. A broken record and the front of the dump end the scan. -/
def next (scan : Scan) : Option (Except Overrun Dive) × Scan :=
  if scan.done then (none, scan)
  else
    match seek scan.memory scan.position with
    | none => (none, { scan with position := 0, done := true })
    | some place =>
      match scan.recordAt place with
      | .error overrun => (some (.error overrun), { scan with position := place, done := true })
      | .ok dive =>
        (some (.ok dive),
          { scan with limit := place, position := place - Dive.marker.length })

/-- A scan that reports a record goes on below it. -/
theorem next_position_lt {scan rest : Scan} {dive : Dive}
    (h : scan.next = (some (.ok dive), rest)) : rest.position < scan.position := by
  unfold next at h
  split at h
  · simp at h
  · split at h
    · simp at h
    · rename_i place hplace
      have hlt := seek_lt hplace
      split at h
      · simp at h
      · simp only [Prod.mk.injEq] at h
        obtain ⟨_, rfl⟩ := h
        show place - _ < _
        omega

/-! ## §3 Visitors -/

/-- Hands record after record to the visitor, which keeps a state and says whether to go on. The
scan ends without a fault when the visitor has had enough or no record is left. -/
def visit {σ : Type} (visitor : σ → Dive → σ × Bool) (scan : Scan) (state : σ) :
    σ × Option Overrun :=
  match _h : scan.next with
  | (none, _) => (state, none)
  | (some (.error overrun), _) => (state, some overrun)
  | (some (.ok dive), rest) =>
    match visitor state dive with
    | (state, false) => (state, none)
    | (state, true) => visit visitor rest state
termination_by scan.position
decreasing_by exact next_position_lt (by assumption)

end Scan

namespace Dive

/-- Hands the records of a dump to the visitor, newest first. -/
def extract {σ : Type} (memory : Bytes) (visitor : σ → Dive → σ × Bool) (state : σ) :
    σ × Option Overrun :=
  (Scan.start memory).visit visitor state

/-- The records of a dump, newest first, and what ended the scan. -/
def all (memory : Bytes) : List Dive × Option Overrun :=
  let (found, overrun) := extract memory (fun found dive => (dive :: found, true)) []
  (found.reverse, overrun)

end Dive

end DiveLink

import DiveLink.Event
import DiveLink.Files.Store
import DiveLink.FingerprintCache
import DiveLink.Link.Command
import DiveLink.Link.Transfer

/-!
# Sessions

A session talks to one computer over one link. Every dump goes the same way: the computer is asked
for its model, its serial number and its clock, then for the size of the dives after a fingerprint,
and then for these dives.

1. `Warning` is what a reader of the log should know although the work goes on.
2. `Session` is what is known of the computer, and the events that were told.
3. `Session.setFingerprint` chooses the fingerprint; from then on the remembered ones are not looked
   up.
4. `Session.dump` fetches the dives into a buffer. What came in before a fault stays in the buffer.

A host may be without the memory for the dives that a computer announces, and has
`Fault.outOfMemory` for it. This is not followed here: there is room for every buffer, and no dump
fails for want of it.
-/

namespace DiveLink

/-! ## §1 Warnings -/

/-- What went wrong without ending the work. -/
inductive Warning where
  /-- A payload was longer than what was missing. -/
  | truncated (truncation : Truncation)
  /-- The remembered fingerprint could not be looked up. -/
  | cacheIgnored (fault : CacheFault)
  /-- The newest fingerprint could not be remembered. -/
  | notRemembered (fault : CacheFault)
  /-- A dump is not the one that its record was written for. -/
  | foreignMetadata (dump sha256 : String)
  deriving DecidableEq, Repr

def Warning.message : Warning → String
  | truncated ⟨length, room⟩ => s!"Receive buffer too small, truncating {length} bytes to {room}"
  | cacheIgnored fault => "Ignoring fingerprint cache: " ++ fault.message
  | notRemembered fault => "Failed to store fingerprint: " ++ fault.message
  | foreignMetadata dump sha256 => s!"Dump {dump} does not match its metadata (sha256 {sha256})"

/-! ## §2 Sessions -/

/-- What a session needs to know beside what the computer says. The memory of the host is no part of
it, since there is always enough. -/
structure Surroundings where
  /-- The host's time. -/
  now : Instant
  files : Files

/-- A session over a link. -/
structure Session (σ : Type) where
  link : σ
  log : EventLog
  /-- The fingerprint after which dives are wanted. -/
  cursor : Fingerprint
  /-- Whether the caller has chosen the fingerprint. -/
  pinned : Bool
  /-- The pair of clocks of the last dump that came so far. -/
  clock : Option ClockCalibration
  /-- The computer that answered the last dump that came so far. -/
  info : Option DeviceInfo
  cache : Option FingerprintCache

/-- A dump that is going on. -/
structure Dumping (σ : Type) where
  session : Session σ
  buffer : Bytes
  warnings : List Warning

namespace Session

variable {σ : Type} [ReportLink σ]

/-- A new session over a link, with remembered fingerprints or without. -/
def start (link : σ) (cache : Option FingerprintCache) : Session σ :=
  ⟨link, .empty, .none, false, none, none, cache⟩

def family (_ : Session σ) : Family := .scubaproG2

/-- Chooses the fingerprint after which dives are wanted. -/
def setFingerprint (session : Session σ) (data : Bytes) : Except Fault Unit × Session σ :=
  match Fingerprint.ofBytes data with
  | .error fault => (.error fault, session)
  | .ok fingerprint => (.ok (), { session with cursor := fingerprint, pinned := true })

/-! ## §3 Steps of a dump -/

/-- A step of a dump, which may fail. -/
abbrev Step (σ : Type) := ExceptT Fault (StateM (Dumping σ))

def update (change : Session σ → Session σ) : Step σ Unit :=
  modify fun dumping => { dumping with session := change dumping.session }

def tell (event : Event) : Step σ Unit :=
  update fun session => { session with log := session.log.push event }

/-- Tells how far the dump is. -/
def tellProgress (current maximum : UInt32) : Step σ Unit :=
  tell (.progress ⟨current, maximum⟩)

def warn (warnings : List Warning) : Step σ Unit :=
  modify fun dumping => { dumping with warnings := dumping.warnings ++ warnings }

/-- Keeps what a receipt says about the link, and fails if the receipt does. -/
def accept (receipt : Receipt σ) : Step σ Unit := do
  update fun session => { session with link := receipt.link }
  warn (receipt.truncations.map .truncated)
  match receipt.fault with
  | some fault => throw fault
  | none => return ()

/-- Sends a command and receives the `size` bytes of its answer. -/
def request (command : Bytes) (size : Nat) : Step σ Bytes := do
  let receipt := transfer (← get).session.link command size
  accept receipt
  return receipt.received

def requestWord (command : Bytes) : Step σ UInt32 := do
  return Word.front (← request command 4)

/-- Asks which computer it is and how its clock stands. Nothing is kept before all three answers
are there. -/
def identify (now : Instant) : Step σ DeviceInfo := do
  let model ← request Opcode.model.bare 1
  let serial ← requestWord Opcode.serial.bare
  let devtime ← requestWord Opcode.deviceTime.bare
  let clock : ClockCalibration := ⟨devtime, now⟩
  update fun session => { session with clock := some clock }
  tellProgress Download.probeBytes 0
  tell (.clock clock)
  let info : DeviceInfo := ⟨UInt32.ofNat (model.headD 0).toNat, 0, serial⟩
  update fun session => { session with info := some info }
  tell (.devinfo info)
  return info

/-- Looks up the fingerprint that is remembered for a computer, unless the caller has chosen one.
Without a remembered one all dives are wanted. -/
def lookUp (files : Files) (serial : UInt32) : Step σ Unit := do
  let session := (← get).session
  match session.cache with
  | none => return ()
  | some cache =>
    if session.pinned then return ()
    else
      match ((cache.load serial : StateM Files _).run files).1 with
      | .ok found => update fun session => { session with cursor := found.getD .none }
      | .error fault => warn [.cacheIgnored fault]

/-- Fetches `length` bytes of dives into the buffer. Room for them can always be had: making the
buffer does not fail, for any of the sizes that a word can name. -/
def fetch (length : UInt32) : Step σ Unit := do
  let maximum := Download.bytesInAll length
  let before := Download.probeBytes + Download.sizeBytes + Download.sizeBytes
  modify fun dumping => { dumping with buffer := List.replicate length.toNat 0 }
  let total ← requestWord (Opcode.data.after (← get).session.cursor)
  tellProgress before maximum
  if total.toNat ≠ length.toNat + 4 then
    throw (.sizeMismatch (length.toNat + 4) total.toNat)
  let receipt := receive (← get).session.link length.toNat
  modify fun dumping => { dumping with buffer := receipt.over dumping.buffer }
  accept receipt
  tellProgress (Word.saturatingAdd before length) maximum

/-- The steps of a dump. -/
def dumpSteps (around : Surroundings) : Step σ Unit := do
  modify fun dumping => { dumping with buffer := [] }
  tellProgress 0 0
  let info ← identify around.now
  lookUp around.files info.serial
  let length ← requestWord (Opcode.dataLength.after (← get).session.cursor)
  tellProgress (Download.probeBytes + Download.sizeBytes) (Download.bytesInAll length)
  if length = 0 then return ()
  else fetch length

/-! ## §4 Dumps -/

/-- Fetches the dives after the fingerprint into the buffer, in place of what it held. It can
fail by the link and by an answer of the wrong size; memory does not run out. -/
def dump (around : Surroundings) (session : Session σ) (buffer : Bytes) :
    Except Fault Unit × Dumping σ :=
  (dumpSteps around).run.run ⟨session, buffer, []⟩

end Session

end DiveLink

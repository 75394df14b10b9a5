import DiveLink.Text.Hex
import DiveLink.Text.Quoted

/-!
# Faults of a download

What can go wrong between the host and a dive computer, or while a dump is cut into dives.

1. `Fault` lists the causes, `Fault.message` words them.
2. `Fault.kind` and `Fault.code` sort them: a kind tells what to do about a fault, a code names
   it in a report.
3. `Fault.describe` is the line that a report shows.
-/

namespace DiveLink

/-! ## §1 Causes -/

/-- What a caller can hand in that is not acceptable. -/
inductive ArgumentFault where
  /-- A command of `size` bytes does not fit into one report. -/
  | commandTooLong (size : Nat)
  /-- A fingerprint was given as `size` bytes. -/
  | fingerprintSize (size : Nat)
  /-- A fingerprint was given as a text that is not hexadecimal. -/
  | fingerprintText (refusal : Hex.Refusal)
  /-- A reason that another part gives in its own words. -/
  | other (reason : String)
  deriving DecidableEq, Repr

/-- What a computer can send that is no answer. -/
inductive ProtocolFault where
  /-- A report claims `size` bytes of payload. -/
  | impossibleSize (size : Nat)
  /-- A reason that another part gives in its own words. -/
  | other (reason : String)
  deriving DecidableEq, Repr

/-- What can go wrong in a download. -/
inductive Fault where
  | invalidArgument (cause : ArgumentFault)
  /-- No room for a dump of this many bytes. -/
  | outOfMemory (requested : Nat)
  /-- The link failed, in its own words. -/
  | link (message : String)
  /-- A transfer moved `actual` bytes where `expected` were due. -/
  | incompleteTransfer (expected actual : Nat)
  | protocol (cause : ProtocolFault)
  /-- The computer announced a dump of another size than agreed. -/
  | sizeMismatch (expected actual : Nat)
  /-- The record at `offset`, `length` bytes long, reaches beyond `limit`. -/
  | dataFormat (offset length limit : Nat)
  | noDevice
  deriving DecidableEq, Repr

/-! ## §2 Wording -/

def ArgumentFault.message : ArgumentFault → String
  | .commandTooLong size => s!"command of {size} bytes exceeds the 62 byte limit"
  | .fingerprintSize size => s!"fingerprint must be 0 or 4 bytes, got {size}"
  | .fingerprintText .oddLength => "invalid fingerprint hex: Odd number of digits"
  | .fingerprintText (.notADigit byte place) =>
    "invalid fingerprint hex: Invalid character " ++ Quoted.char (Char.ofNat byte.toNat) ++
      s!" at position {place}"
  | .other reason => reason

def ProtocolFault.message : ProtocolFault → String
  | .impossibleSize size => s!"impossible packet size {size}"
  | .other reason => reason

namespace Fault

def message : Fault → String
  | invalidArgument cause => "Invalid argument: " ++ cause.message
  | outOfMemory requested => s!"Insufficient buffer space available ({requested} bytes requested)"
  | link reason => "I/O error: " ++ reason
  | incompleteTransfer expected actual =>
    s!"Incomplete transfer (got {actual}, expected {expected})"
  | protocol cause => "Protocol error: " ++ cause.message
  | sizeMismatch expected actual =>
    s!"Received an unexpected size: expected {expected}, got {actual}"
  | dataFormat offset length limit =>
    s!"Dive record at offset {offset} with length {length} exceeds limit {limit}"
  | noDevice => "No compatible device found"

/-! ## §3 Kinds and codes -/

/-- The kinds of faults. -/
inductive Kind where
  | invalidArgument | outOfMemory | io | protocol | dataFormat
  deriving DecidableEq, Repr

def kind : Fault → Kind
  | invalidArgument _ => .invalidArgument
  | outOfMemory _ => .outOfMemory
  | link _ | incompleteTransfer .. | noDevice => .io
  | protocol _ | sizeMismatch .. => .protocol
  | dataFormat .. => .dataFormat

/-- The code that names a fault in a report. -/
def code : Fault → String
  | invalidArgument _ => "G2-001"
  | outOfMemory _ => "G2-002"
  | link _ => "G2-010"
  | incompleteTransfer .. => "G2-012"
  | noDevice => "G2-013"
  | protocol _ => "G2-020"
  | sizeMismatch .. => "G2-021"
  | dataFormat .. => "G2-030"

/-- The line that a report shows: code and wording. -/
def describe (fault : Fault) : String :=
  "[" ++ fault.code ++ "] " ++ fault.message

end Fault

end DiveLink

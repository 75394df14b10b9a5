import DiveLink.Dive
import DiveLink.Fault
import DiveLink.Text.Ranges

/-!
# Fingerprints

A fingerprint names a dive by its timestamp. Handed back to the computer it makes it send only
newer dives.

1. `Fingerprint.ofBytes` takes no bytes, for "no dive known", or the four bytes of a record.
2. `Fingerprint.text` prints the bytes in hexadecimal, `Fingerprint.ofText` reads them.
3. `Incremental` is the rule of a resumed listing: it ends at the first record that is not newer
   than the last known one.
-/

namespace DiveLink

/-- The timestamp by which a dive is known; zero stands for no dive. -/
structure Fingerprint where
  timestamp : UInt32
  deriving DecidableEq, Repr

namespace Fingerprint

/-- The fingerprint that stands for no dive. -/
def none : Fingerprint := ⟨0⟩

def ofDive (dive : Dive) : Fingerprint := ⟨dive.timestamp⟩

/-- Reads a fingerprint: no bytes stand for no dive, else there have to be four. -/
def ofBytes (data : Bytes) : Except Fault Fingerprint :=
  if data.length = 0 then .ok none
  else if data.length = 4 then .ok ⟨Word.front data⟩
  else .error (.invalidArgument (.fingerprintSize data.length))

/-- The four bytes of a fingerprint, as a record has them. -/
def toBytes (fingerprint : Fingerprint) : Bytes :=
  Word.toBytes fingerprint.timestamp

/-- The fingerprint in hexadecimal, as the bytes stand in a record. -/
def text (fingerprint : Fingerprint) : String :=
  Hex.upper fingerprint.toBytes

/-- Reads a fingerprint from hexadecimal text with blanks around it. -/
def ofText (text : String) : Except Fault Fingerprint :=
  match Hex.decode (String.ofList (Blank.trim text.toList)) with
  | .error refusal => .error (.invalidArgument (.fingerprintText refusal))
  | .ok data => ofBytes data

/-- Whether the fingerprint stands for no dive. -/
def isNone (fingerprint : Fingerprint) : Bool :=
  fingerprint.timestamp == 0

/-- Whether the fingerprint is of a later dive than the other one. -/
def isNewerThan (fingerprint other : Fingerprint) : Bool :=
  other.timestamp < fingerprint.timestamp

end Fingerprint

/-- A resumed listing: the newest dive known before, and the newest one listed so far. -/
structure Incremental where
  lastKnown : Fingerprint
  newest : Option Fingerprint
  deriving DecidableEq, Repr

namespace Incremental

/-- A listing that resumes after a dive. -/
def after (lastKnown : Fingerprint) : Incremental := ⟨lastKnown, none⟩

/-- Whether the dive is to be listed. Without a last known dive every dive is. The first dive
listed is the newest one. -/
def accept (listing : Incremental) (dive : Dive) : Incremental × Bool :=
  let fingerprint := Fingerprint.ofDive dive
  if !listing.lastKnown.isNone && !fingerprint.isNewerThan listing.lastKnown then
    (listing, false)
  else
    ({ listing with newest := listing.newest.or (some fingerprint) }, true)

end Incremental

end DiveLink

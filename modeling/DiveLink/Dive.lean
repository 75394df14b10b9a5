import DiveLink.Word

/-!
# Dive records

How the computer stores a dive in its memory: a marker of four bytes, the length of the whole
record, a timestamp, and the dive's own bytes. The timestamp is also the dive's fingerprint.

1. `Dive.record` writes a record.
2. `Dive` is a record found in a dump: its place, its bytes and the bytes of its fingerprint.
-/

namespace DiveLink

/-- A record found in a dump. -/
structure Dive where
  /-- Where the record starts in the dump. -/
  offset : Nat
  data : Bytes
  /-- The four bytes in which the fingerprint stands. -/
  fingerprintBytes : Bytes
  deriving DecidableEq, Repr

namespace Dive

/-- The bytes that start a record. -/
def marker : Bytes := [0xA5, 0xA5, 0x5A, 0x5A]

/-- Where the length stands in a record. -/
def lengthPlace : Nat := 4

/-- Where the fingerprint stands in a record. -/
def fingerprintPlace : Nat := 8

/-- The size of marker, length and fingerprint. -/
def headerSize : Nat := 12

/-- The record of a dive: marker, length of the record, timestamp, payload. -/
def record (timestamp : UInt32) (payload : Bytes) : Bytes :=
  marker ++ Word.toBytes (UInt32.ofNat (headerSize + payload.length)) ++ Word.toBytes timestamp ++
    payload

def size (dive : Dive) : Nat := dive.data.length

/-- Where the record ends in the dump. -/
def stop (dive : Dive) : Nat := dive.offset + dive.size

/-- Whether the record holds no bytes. -/
def isEmpty (dive : Dive) : Bool := dive.data.isEmpty

/-- The timestamp that the fingerprint bytes spell. -/
def timestamp (dive : Dive) : UInt32 := Word.front dive.fingerprintBytes

end Dive

end DiveLink

import DiveLink.Fingerprint

/-!
# Families of computers and their commands

Which dive computers the library can talk to, and what the host can ask of one. Three commands ask
for a fixed answer and are one byte long; the two about dives carry the fingerprint after which
dives are wanted.

1. `Family` lists the families, with the name that files and reports use and the numbers under which
   a computer shows on the bus.
2. `Opcode` names the commands, `Opcode.byte` is the first byte of each.
3. `Opcode.after` is the command with a fingerprint in it.
4. `Download.bytesInAll` counts the bytes of all answers of a download.
-/

namespace DiveLink

/-! ## §1 Families -/

/-- A family of dive computers with one protocol. -/
inductive Family where
  | scubaproG2
  deriving DecidableEq, Repr

namespace Family

/-- The name in files and reports. -/
def name : Family → String
  | scubaproG2 => "scubapro_g2"

def all : List Family := [scubaproG2]

def ofName? (name : String) : Option Family :=
  all.find? (·.name == name)

/-- The vendor number on the bus. -/
def vendor : Family → UInt16
  | scubaproG2 => 0x2E6C

/-- The product number on the bus. -/
def product : Family → UInt16
  | scubaproG2 => 0x3201

/-- Whether some family shows on the bus under these numbers. -/
def isCompatible (vendor product : UInt16) : Bool :=
  all.any fun family => family.vendor == vendor && family.product == product

end Family

/-! ## §2 Commands -/

/-- What a command asks for. -/
inductive Opcode where
  /-- The number of the model, one byte. -/
  | model
  | serial
  /-- The count of the computer's clock. -/
  | deviceTime
  /-- The dives after a fingerprint. Their size and four more is answered before them. -/
  | data
  /-- The size of the dives after a fingerprint. -/
  | dataLength
  deriving DecidableEq, Repr

namespace Opcode

/-- The byte that starts the command. -/
def byte : Opcode → UInt8
  | model => 0x10
  | serial => 0x14
  | deviceTime => 0x1A
  | data => 0xC4
  | dataLength => 0xC6

/-- The command of this byte alone. -/
def bare (opcode : Opcode) : Bytes := [opcode.byte]

/-- What ends a command that carries a fingerprint: the number 10000. -/
def trailer : Bytes := Word.toBytes 10000

/-- The command with the timestamp of a fingerprint. -/
def after (opcode : Opcode) (fingerprint : Fingerprint) : Bytes :=
  opcode.byte :: fingerprint.toBytes ++ trailer

@[simp] theorem length_after (opcode : Opcode) (fingerprint : Fingerprint) :
    (opcode.after fingerprint).length = 9 := rfl

end Opcode

/-! ## §3 Sizes of answers -/

namespace Download

/-- The bytes of the answers about model, serial number and clock. -/
def probeBytes : UInt32 := 9

/-- The bytes of an answer that is a size. -/
def sizeBytes : UInt32 := 4

/-- How many bytes a download of `length` bytes of dives takes, with all answers before them: where
there are dives, their size is answered a second time. Sums stay at the greatest word. -/
def bytesInAll (length : UInt32) : UInt32 :=
  let payload := if 0 < length then Word.saturatingAdd length sizeBytes else 0
  Word.saturatingAdd payload (sizeBytes + probeBytes)

end Download

end DiveLink

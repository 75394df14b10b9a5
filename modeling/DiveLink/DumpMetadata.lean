import DiveLink.Event.Json
import DiveLink.Files.Access
import DiveLink.Sha256

/-!
# What is kept beside a dump

A file beside a dump says from which computer it is, how the clocks stood, and by size and digest
which bytes it belongs to.

1. `DumpMetadata` is that record, `DumpMetadata.path` the file beside a dump.
2. `DumpMetadata.load` reads it, `DumpMetadata.isOf` compares it with the bytes of a dump.
-/

namespace DiveLink

/-- What is kept beside a dump. -/
structure DumpMetadata where
  family : Family
  model : UInt32
  serial : UInt32
  /-- The computer's clock at the download. -/
  devtime : UInt32
  /-- The host's time at the download. -/
  systime : Instant
  length : UInt64
  /-- The digest of the dump in hexadecimal. -/
  sha256 : String
  deriving DecidableEq, Repr

open Json in
instance : Record DumpMetadata where
  schema := ⟨"DumpMetadata",
    [⟨"family", .family, none⟩, ⟨"model", .word, none⟩, ⟨"serial", .word, none⟩,
      ⟨"devtime", .word, none⟩, ⟨"systime", .instant, none⟩, ⟨"length", .size, none⟩,
      ⟨"sha256", .text, none⟩]⟩
  toRow data :=
    (data.family, data.model, data.serial, data.devtime, data.systime, data.length, data.sha256, ())
  ofRow row :=
    ⟨row.1, row.2.1, row.2.2.1, row.2.2.2.1, row.2.2.2.2.1, row.2.2.2.2.2.1, row.2.2.2.2.2.2.1⟩
  ofRow_toRow _ := rfl

/-- What can go wrong with the file beside a dump. -/
inductive MetadataFault where
  | cannotRead (fault : TextFault)
  /-- The text is not the JSON of the record. -/
  | badJson (report : String)
  deriving DecidableEq, Repr

def MetadataFault.message : MetadataFault → String
  | cannotRead fault => "Failed to read dump metadata: " ++ fault.message
  | badJson report => "Failed to parse dump metadata: " ++ report

namespace DumpMetadata

/-- The pair of clocks of the download. -/
def clock (data : DumpMetadata) : ClockCalibration := ⟨data.devtime, data.systime⟩

/-- The file beside a dump. -/
def path (dump : String) : String := dump ++ ".json"

/-- The digest of a dump in hexadecimal. -/
def digest (dump : Bytes) : String := Hex.lower (Sha256.digest dump)

/-- Whether the dump has the size and the digest that are kept beside it. -/
def isOf (data : DumpMetadata) (dump : Bytes) : Bool :=
  data.length.toNat == dump.length && data.sha256 == digest dump

def ofText (text : String) : Except MetadataFault DumpMetadata :=
  (Json.Record.read text).mapError fun failure => .badJson (failure.report text)

def load {m : Type → Type} [Monad m] [FileAccess m] (path : String) :
    m (Except MetadataFault DumpMetadata) := do
  match ← FileAccess.readText path with
  | .error fault => return .error (.cannotRead fault)
  | .ok text => return ofText text

end DumpMetadata

end DiveLink

import DiveLink.DumpMetadata
import DiveLink.Listing
import DiveLink.Session

/-!
# Results of commands

1. `CommandFault` is what keeps a command from its result, `CommandFault.message` words it.
2. `writeJson` writes a result to a file, with the folder that the file lies in.
-/

namespace DiveLink

/-- What keeps a command from its result. -/
inductive CommandFault where
  | device (fault : Fault)
  | noIdentity
  | noClock
  | cannotMakeFolder (fault : FileFault)
  | cannotWriteDump (fault : FileFault)
  | cannotReadDump (fault : FileFault)
  | cannotWriteOutput (fault : FileFault)
  | metadata (fault : MetadataFault)
  /-- The time of a dive lies beyond the calendar. -/
  | beyondCalendar
  deriving DecidableEq, Repr

def CommandFault.message : CommandFault → String
  | device fault => fault.describe
  | noIdentity => "Device did not report its identity"
  | noClock => "Device did not report its clock"
  | cannotMakeFolder fault => "Failed to create output directory: " ++ fault.message
  | cannotWriteDump fault => "Failed to write dump: " ++ fault.message
  | cannotReadDump fault => "Failed to read dump: " ++ fault.message
  | cannotWriteOutput fault => "Failed to write output: " ++ fault.message
  | metadata fault => fault.message
  | beyondCalendar => "Dive time lies beyond the calendar"

def writeJson {m : Type → Type} [Monad m] [FileAccess m] (value : Json.Tree) (path : String)
    (pretty : Bool) : m (Except CommandFault Unit) := do
  match ← FileAccess.makeParent path with
  | .error fault => return .error (.cannotMakeFolder fault)
  | .ok () =>
    match ← FileAccess.setContents path (Utf8.bytes (value.text pretty)) with
    | .error fault => return .error (.cannotWriteOutput fault)
    | .ok () => return .ok ()

end DiveLink

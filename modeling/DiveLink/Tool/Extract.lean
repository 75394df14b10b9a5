import DiveLink.Tool.Output

/-!
# Listing a dump file

`extractFile` lists the dives of a dump file, newest first. With the record beside the dump they get
their times; with a fingerprint the listing ends at the first dive that is not newer.
-/

namespace DiveLink

/-- A listing that is being made. -/
structure Extraction where
  listing : Incremental
  /-- The rows so far, the last one first. -/
  rows : List DiveSummary
  /-- Whether a time lay beyond the calendar. -/
  beyond : Bool

namespace Extraction

/-- A listing that resumes after a fingerprint. -/
def after (since : Fingerprint) : Extraction := ⟨.after since, [], false⟩

/-- Adds the next dive, if it is to be listed. -/
def step (clock : Option ClockCalibration) (state : Extraction) (dive : Dive) :
    Extraction × Bool :=
  match state.listing.accept dive with
  | (listing, false) => ({ state with listing := listing }, false)
  | (listing, true) =>
    match (DiveSummary.ofDive (state.rows.length + 1) dive).timed clock with
    | none => ({ state with listing := listing, beyond := true }, false)
    | some row => ({ state with listing := listing, rows := row :: state.rows }, true)

end Extraction

/-- The rows of a dump. -/
def extractRows (clock : Option ClockCalibration) (since : Fingerprint) (dump : Bytes) :
    Except CommandFault (List DiveSummary) :=
  let (state, overrun) := Dive.extract dump (Extraction.step clock) (.after since)
  if state.beyond then .error .beyondCalendar
  else match overrun with
    | some overrun => .error (.device overrun.fault)
    | none => .ok state.rows.reverse

variable {m : Type → Type} [Monad m] [FileAccess m]

/-- The record beside a dump, if one is asked for. -/
def loadOptional (path : Option String) : m (Except MetadataFault (Option DumpMetadata)) := do
  match path with
  | none => return .ok none
  | some path => return (← DumpMetadata.load path).map some

/-- Warns of a record that is not of this dump. -/
def checkRecord (path : String) (dump : Bytes) : Option DumpMetadata → List Warning
  | none => []
  | some data => if data.isOf dump then [] else [.foreignMetadata path data.sha256]

/-- Lists the dives of a dump file. -/
def extractFile (path : String) (beside : Option String) (since : Option Fingerprint) :
    m (Except CommandFault (List DiveSummary) × List Warning) := do
  match ← FileAccess.contents path with
  | .error fault => return (.error (.cannotReadDump fault), [])
  | .ok dump =>
    match ← loadOptional beside with
    | .error fault => return (.error (.metadata fault), [])
    | .ok data =>
      return (extractRows (data.map DumpMetadata.clock) (since.getD .none) dump,
        checkRecord path dump data)

end DiveLink

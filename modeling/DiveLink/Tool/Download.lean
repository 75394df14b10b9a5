import DiveLink.DiveComputer
import DiveLink.Tool.Output

/-!
# Downloading dives

1. `download` lists the dives of a computer that are newer than a fingerprint, and remembers the
   newest of them once everything has come in.
2. `dumpToFile` writes the memory of a computer to a file, and beside it the record that says where
   it comes from.
-/

namespace DiveLink

variable {δ : Type} [DiveComputer δ]

/-- What a command left that talks to a computer. -/
structure Done (δ α : Type) where
  computer : δ
  files : Files
  result : Except CommandFault α
  warnings : List Warning

/-- Remembers the newest of the dives for the computer that they are from, if there are dives, the
computer has told who it is, and there is a place to remember. A failure is a warning. -/
def rememberNewest (cache : Option FingerprintCache) (info : Option DeviceInfo)
    (dives : List Dive) (files : Files) : List Warning × Files :=
  match cache, info, dives with
  | some cache, some info, newest :: _ =>
    match (cache.save info.serial (Fingerprint.ofDive newest) : StateM Files _).run files with
    | (.ok (), files) => ([], files)
    | (.error fault, files) => ([.notRemembered fault], files)
  | _, _, _ => ([], files)

/-- Chooses a fingerprint, if one is given. -/
def chooseFingerprint (newerThan : Option Fingerprint) (computer : δ) : Except Fault Unit × δ :=
  match newerThan with
  | none => (.ok (), computer)
  | some fingerprint => DiveComputer.setFingerprint computer fingerprint.toBytes

/-- Keeps every dive, the last one first. -/
def keepAll (seen : List Dive) (dive : Dive) : List Dive × Bool := (dive :: seen, true)

/-- Lists the dives of a computer, newest first; with a fingerprint, those that are newer. -/
def download (now : Instant) (newerThan : Option Fingerprint) (cache : Option FingerprintCache)
    (computer : δ) (files : Files) : Done δ (List DiveSummary) :=
  match chooseFingerprint newerThan computer with
  | (.error fault, computer) => ⟨computer, files, .error (.device fault), []⟩
  | (.ok (), computer) =>
    let visited := DiveComputer.visit ⟨now, files⟩ computer keepAll []
    match visited.fault with
    | some fault => ⟨visited.computer, files, .error (.device fault), visited.warnings⟩
    | none =>
      let dives := visited.state.reverse
      match (rowsOf dives).mapM (DiveSummary.timed (DiveComputer.clock visited.computer)) with
      | none => ⟨visited.computer, files, .error .beyondCalendar, visited.warnings⟩
      | some rows =>
        let (warnings, files) :=
          rememberNewest cache (DiveComputer.identity visited.computer) dives files
        ⟨visited.computer, files, .ok rows, visited.warnings ++ warnings⟩

/-- Writes a dump to a file and its record beside it. -/
def writeDump (path : String) (dump : Bytes) (data : DumpMetadata) :
    StateM Files (Except CommandFault DumpMetadata) := do
  match ← FileAccess.makeParent path with
  | .error fault => return .error (.cannotMakeFolder fault)
  | .ok () =>
    match ← FileAccess.setContents path dump with
    | .error fault => return .error (.cannotWriteDump fault)
    | .ok () =>
      match ← writeJson (Json.Record.toTree data) (DumpMetadata.path path) true with
      | .error fault => return .error fault
      | .ok () => return .ok data

/-- Dumps the memory of a computer to a file. Nothing is written before the dump is complete and
the computer has told who it is and how its clock stands. -/
def dumpToFile (now : Instant) (path : String) (computer : δ) (files : Files) :
    Done δ DumpMetadata :=
  let dumped := DiveComputer.dump ⟨now, files⟩ computer []
  let failed (fault : CommandFault) : Done δ DumpMetadata :=
    ⟨dumped.computer, files, .error fault, dumped.warnings⟩
  match dumped.fault, DiveComputer.identity dumped.computer, DiveComputer.clock dumped.computer with
  | some fault, _, _ => failed (.device fault)
  | none, none, _ => failed .noIdentity
  | none, some _, none => failed .noClock
  | none, some info, some clock =>
    let data : DumpMetadata :=
      { family := DiveComputer.family dumped.computer
        model := info.model
        serial := info.serial
        devtime := clock.devtime
        systime := clock.systime
        length := UInt64.ofNat dumped.buffer.length
        sha256 := DumpMetadata.digest dumped.buffer }
    let (result, files) := (writeDump path dumped.buffer data).run files
    ⟨dumped.computer, files, result, dumped.warnings⟩

end DiveLink

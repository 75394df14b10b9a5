import DiveLink.CommandLine.Arguments
import DiveLink.FingerprintCache
import DiveLink.LogFilter
import DiveLink.Tool.Extract

/-!
# Running the tool

1. `Trouble` is what can keep the tool from its work once the arguments are read.
2. `Ending` is how the tool ends: with which exit code, which output, and which complaint.
3. `run` does what the arguments ask for.

The settings are read first, then the log filter is checked, and then the command is run. This
build has no link to real computers, so the commands that need one say so.
-/

namespace DiveLink.CommandLine

/-! ## §1 Troubles -/

/-- What keeps the tool from its work. -/
inductive Trouble where
  | settings (fault : SettingsFault)
  | logging (refusal : LogFilter.Refusal)
  | device (fault : Fault)
  | command (fault : CommandFault)
  | cache (fault : CacheFault)
  | noOwnFolder
  | noBackend
  deriving DecidableEq, Repr

def Trouble.message : Trouble → String
  | settings fault => "settings error: " ++ fault.message
  | logging refusal => "logging initialization failed: " ++ refusal.message
  | device fault => fault.describe
  | command fault => fault.message
  | cache fault => fault.message
  | noOwnFolder => "settings error: Failed to get app data directory"
  | noBackend => "no device backend available; rebuild with the `hidapi` feature"

/-! ## §2 Endings -/

/-- How the tool ends. -/
structure Ending where
  exit : Nat
  output : String
  complaint : Option String
  deriving DecidableEq, Repr

/-- What the tool says about its version. -/
def versionLine : String := "g2tool 1.0.0\n"

/-- How the tool ends when the arguments are refused. No help is printed, and no usage. -/
def Ending.ofRefusal : Refusal → Ending
  | .help => ⟨0, "", none⟩
  | .version => ⟨0, versionLine, none⟩
  | _ => ⟨2, "", none⟩

/-- How the tool ends in trouble. A time beyond the calendar is a fault of the tool itself, and so
is a log filter of which a part ends inside a character. -/
def Ending.ofTrouble : Trouble → Ending
  | .command .beyondCalendar | .logging .brokenCharacter => ⟨101, "", none⟩
  | trouble => ⟨1, "", some ("error: " ++ trouble.message)⟩

/-- How the tool ends with its work done. -/
def Ending.ofOutput : Except Trouble String → Ending
  | .ok output => ⟨0, output, none⟩
  | .error trouble => .ofTrouble trouble

/-! ## §3 Commands -/

/-- What the tool finds beside its arguments. -/
structure Environment where
  ownFolder : Option String
  /-- A log filter that goes before the one that is set. -/
  logFilter : Option String

/-- The tool's own folder for a user. -/
def ownFolderOf (home : String) : String :=
  [".local", "share", "g2tool"].foldl Path.join home

/-- Whether the log can be set up: by the filter of the environment if it is one, and else by the
one that is set. -/
def checkLog (filter : Option String) (settings : Settings) : Except Trouble Unit :=
  let set := (LogFilter.check settings.logFilter).mapError .logging
  match filter.map LogFilter.check with
  | some (.ok ()) => .ok ()
  | some (.error .brokenCharacter) => .error (.logging .brokenCharacter)
  | _ => set

/-- The line of a JSON value. -/
def line (pretty : Bool) (value : Json.Tree) : String := value.text pretty ++ "\n"

def typed (text : Option String) : Except Trouble (Option Fingerprint) :=
  match text with
  | none => .ok none
  | some text =>
    match Fingerprint.ofText text with
    | .ok fingerprint => .ok (some fingerprint)
    | .error fault => .error (.device fault)

variable {m : Type → Type} [Monad m] [FileAccess m]

/-- Lists the dives of a dump file, to a file or as output. -/
def extract (dump : String) (metadata since output : Option String) (pretty : Bool) :
    m (Except Trouble String) := do
  match typed since with
  | .error trouble => return .error trouble
  | .ok since =>
    match (← extractFile dump metadata since).1 with
    | .error fault => return .error (.command fault)
    | .ok rows =>
      let value := Json.Tree.list (rows.map DiveSummary.toTree)
      match output with
      | none => return .ok (line pretty value)
      | some path => return ((← writeJson value path pretty).mapError .command).map fun () => ""

/-- Changes the settings and shows them. -/
def changeSettings (file : String) (update : SettingsUpdate) (pretty : Bool) :
    m (Except Trouble String) := do
  match ← update.run file with
  | .error fault => return .error (.settings fault)
  | .ok settings => return .ok (line pretty (Json.Record.toTree settings))

/-- Forgets the fingerprint of a computer and says so, with the members of the report in the order of
their names. -/
def forget (cache : FingerprintCache) (serial : UInt32) (pretty : Bool) :
    m (Except Trouble String) := do
  match ← cache.remove serial with
  | .error fault => return .error (.cache fault)
  | .ok removed =>
    let report : Json.Tree := .object [
      ("serial", .number (.natural serial.toNat)),
      ("path", .string (cache.path serial)),
      ("removed", .bool removed)]
    return .ok (line pretty report.sorted)

def perform (asked : Invocation) (file ownFolder : String) (settings : Settings) :
    m (Except Trouble String) :=
  let pretty := asked.pretty || settings.prettyJson
  match asked.command with
  | .dump _ => return .error .noBackend
  | .download _ _ fingerprint => return (typed fingerprint).bind fun _ => .error .noBackend
  | .extract dump metadata since output => extract dump metadata since output pretty
  | .settings update => changeSettings file update pretty
  | .forget serial =>
    let folder := asked.cacheDir.getD (settings.cacheFolder ownFolder)
    forget ⟨folder, .scubaproG2⟩ serial pretty

/-- Reads the settings, checks the log filter and runs the command. -/
def obey (environment : Environment) (asked : Invocation) : m (Except Trouble String) := do
  match environment.ownFolder with
  | none => return .error .noOwnFolder
  | some ownFolder =>
    let file := asked.config.getD (Settings.fileIn ownFolder)
    match ← Settings.load file with
    | .error fault => return .error (.settings fault)
    | .ok settings =>
      match checkLog environment.logFilter settings with
      | .error trouble => return .error trouble
      | .ok () => perform asked file ownFolder settings

def run (environment : Environment) (texts : List String) : m Ending := do
  match Invocation.ofArguments texts with
  | .error refusal => return .ofRefusal refusal
  | .ok asked => return .ofOutput (← obey environment asked)

end DiveLink.CommandLine

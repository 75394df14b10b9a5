import DiveLink.Files.Access
import DiveLink.Json.Schema

/-!
# Settings of the tool

1. `Settings` is what is set, and what holds where nothing is set.
2. `Settings.load` and `Settings.save` keep them in a file. A file that is not there or is blank
   holds the defaults.
3. `SettingsUpdate` is a change of settings, `SettingsUpdate.run` applies it to a file.
-/

namespace DiveLink

/-- What is set. -/
structure Settings where
  cacheDir : Option String
  logLevel : Option String
  /-- Whether JSON is printed with indentation. -/
  prettyJson : Bool
  deriving DecidableEq, Repr

open Json in
instance : Record Settings where
  schema := ⟨"ToolSettings",
    [⟨"cacheDir", .optionalPath, some none⟩, ⟨"logLevel", .optionalText, some none⟩,
      ⟨"prettyJson", .flag, some false⟩]⟩
  toRow settings := (settings.cacheDir, settings.logLevel, settings.prettyJson, ())
  ofRow row := ⟨row.1, row.2.1, row.2.2.1⟩
  ofRow_toRow _ := rfl

/-- What can go wrong with the file of settings. -/
inductive SettingsFault where
  | cannotRead (fault : TextFault)
  /-- The text is not the JSON of settings. -/
  | badJson (report : String)
  | cannotMakeFolder (fault : FileFault)
  | cannotWrite (fault : FileFault)
  deriving DecidableEq, Repr

def SettingsFault.message : SettingsFault → String
  | cannotRead fault => "Failed to read settings file: " ++ fault.message
  | badJson report => "Failed to parse settings JSON: " ++ report
  | cannotMakeFolder fault => "Failed to create settings directory: " ++ fault.message
  | cannotWrite fault => "Failed to write settings file: " ++ fault.message

namespace Settings

def default : Settings := ⟨none, none, false⟩

/-- The folder for remembered fingerprints: the one that is set, or one in the tool's own folder. -/
def cacheFolder (settings : Settings) (ownFolder : String) : String :=
  settings.cacheDir.getD (Path.join ownFolder "fingerprints")

/-- Which messages are logged: what is set, or warnings and errors. -/
def logFilter (settings : Settings) : String :=
  settings.logLevel.getD "warn"

/-- Whether anything is set to something else than the default. -/
def isChanged (settings : Settings) : Bool := settings ≠ default

/-- The file of settings in the tool's own folder. -/
def fileIn (ownFolder : String) : String := Path.join ownFolder "settings.json"

variable {m : Type → Type} [Monad m] [FileAccess m]

/-- The settings of a text; a blank text holds the defaults. -/
def ofText (text : String) : Except SettingsFault Settings :=
  if Blank.trim text.toList = [] then .ok default
  else (Json.Record.read text).mapError fun failure => .badJson (failure.report text)

def load (path : String) : m (Except SettingsFault Settings) := do
  if ← FileAccess.isPresent path then
    match ← FileAccess.readText path with
    | .error fault => return .error (.cannotRead fault)
    | .ok text => return ofText text
  else return .ok default

/-- Writes settings to a file, with the folder that it lies in. -/
def save (path : String) (settings : Settings) : m (Except SettingsFault Unit) := do
  match ← FileAccess.makeParent path with
  | .error fault => return .error (.cannotMakeFolder fault)
  | .ok () =>
    match ← FileAccess.setContents path (Utf8.bytes (Json.Record.text true settings)) with
    | .error fault => return .error (.cannotWrite fault)
    | .ok () => return .ok ()

end Settings

/-- A change of settings. What is not given stays. -/
structure SettingsUpdate where
  /-- Whether the defaults come back before the rest is applied. -/
  reset : Bool
  cacheDir : Option String
  logLevel : Option String
  prettyJson : Option Bool
  deriving DecidableEq, Repr

namespace SettingsUpdate

/-- Whether the change changes nothing. -/
def isEmpty (update : SettingsUpdate) : Bool :=
  !update.reset && update.cacheDir.isNone && update.logLevel.isNone && update.prettyJson.isNone

def apply (update : SettingsUpdate) (settings : Settings) : Settings :=
  let base := if update.reset then Settings.default else settings
  { cacheDir := update.cacheDir.or base.cacheDir
    logLevel := update.logLevel.or base.logLevel
    prettyJson := update.prettyJson.getD base.prettyJson }

/-- Applies a change to the settings of a file. An empty change only reads. -/
def run {m : Type → Type} [Monad m] [FileAccess m] (update : SettingsUpdate) (path : String) :
    m (Except SettingsFault Settings) := do
  match ← Settings.load path with
  | .error fault => return .error fault
  | .ok current =>
    if update.isEmpty then return .ok current
    else
      let changed := update.apply current
      match ← Settings.save path changed with
      | .error fault => return .error fault
      | .ok () => return .ok changed

end SettingsUpdate

end DiveLink

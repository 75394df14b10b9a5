import DiveLink.Link.Command
import DiveLink.Files.Access
import DiveLink.Fingerprint

/-!
# Remembered fingerprints

A folder remembers for every computer the fingerprint of the newest dive that was downloaded from
it, in one file a computer, so that the next download asks for newer dives only.

1. `FingerprintCache.path` is the file of a serial number.
2. `FingerprintCache.load`, `save` and `remove` look up, remember and forget.
3. `CacheFault` is what can go wrong.
-/

namespace DiveLink

/-- A folder that remembers fingerprints of computers of a family. -/
structure FingerprintCache where
  folder : String
  family : Family
  deriving DecidableEq, Repr

/-- What can go wrong with remembered fingerprints. -/
inductive CacheFault where
  | cannotRead (fault : FileFault)
  /-- The file is not the size of a fingerprint. -/
  | wrongSize (path : String) (size : Nat)
  | cannotMakeFolder (fault : FileFault)
  | cannotWrite (fault : FileFault)
  | cannotRemove (fault : FileFault)
  deriving DecidableEq, Repr

def CacheFault.message : CacheFault → String
  | cannotRead fault => "Failed to read fingerprint file: " ++ fault.message
  | wrongSize path size => s!"Fingerprint file {path} has {size} bytes, expected 4"
  | cannotMakeFolder fault => "Failed to create cache directory: " ++ fault.message
  | cannotWrite fault => "Failed to write fingerprint file: " ++ fault.message
  | cannotRemove fault => "Failed to remove fingerprint file: " ++ fault.message

namespace FingerprintCache

/-- The name of the file of a serial number. -/
def fileName (cache : FingerprintCache) (serial : UInt32) : String :=
  cache.family.name ++ "-" ++ Hex.upperWord serial ++ ".bin"

/-- The file of a serial number. -/
def path (cache : FingerprintCache) (serial : UInt32) : String :=
  Path.join cache.folder (cache.fileName serial)

variable {m : Type → Type} [Monad m] [FileAccess m]

/-- The fingerprint remembered for a serial number, if there is one. -/
def load (cache : FingerprintCache) (serial : UInt32) :
    m (Except CacheFault (Option Fingerprint)) := do
  if ← FileAccess.isPresent (cache.path serial) then
    match ← FileAccess.contents (cache.path serial) with
    | .error fault => return .error (.cannotRead fault)
    | .ok data =>
      if data.length = 4 then return .ok (some ⟨Word.front data⟩)
      else return .error (.wrongSize (cache.path serial) data.length)
  else return .ok none

/-- Remembers a fingerprint for a serial number. -/
def save (cache : FingerprintCache) (serial : UInt32) (fingerprint : Fingerprint) :
    m (Except CacheFault Unit) := do
  match ← FileAccess.makeFolders cache.folder with
  | .error fault => return .error (.cannotMakeFolder fault)
  | .ok () =>
    match ← FileAccess.setContents (cache.path serial) fingerprint.toBytes with
    | .error fault => return .error (.cannotWrite fault)
    | .ok () => return .ok ()

/-- Forgets the fingerprint of a serial number and says whether there was one. -/
def remove (cache : FingerprintCache) (serial : UInt32) : m (Except CacheFault Bool) := do
  if ← FileAccess.isPresent (cache.path serial) then
    match ← FileAccess.remove (cache.path serial) with
    | .error fault => return .error (.cannotRemove fault)
    | .ok () => return .ok true
  else return .ok false

end FingerprintCache

end DiveLink

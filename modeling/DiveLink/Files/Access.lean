import DiveLink.Files.Path
import DiveLink.Word

/-!
# Access to files

What the library does with files, whatever keeps them.

1. `FileFault` is what can go wrong, `FileFault.message` words it.
2. `FileAccess` are the surroundings that can do it.
3. `FileAccess.makeFolders` makes a folder with all folders above it.
-/

namespace DiveLink

/-- What can go wrong with a file. -/
inductive FileFault where
  /-- There is nothing under the path. -/
  | missing
  /-- There is something under the path already. -/
  | taken
  /-- A name on the way is not a folder. -/
  | notFolder
  /-- There is a folder where a file is wanted. -/
  | folder
  | nameTooLong
  /-- The path holds the character with code zero. -/
  | nulInPath
  /-- A reason that the surroundings give in their own words. -/
  | other (reason : String)
  deriving DecidableEq, Repr

def FileFault.message : FileFault → String
  | missing => "No such file or directory (os error 2)"
  | taken => "File exists (os error 17)"
  | notFolder => "Not a directory (os error 20)"
  | folder => "Is a directory (os error 21)"
  | nameTooLong => "File name too long (os error 36)"
  | nulInPath => "file name contained an unexpected NUL byte"
  | other reason => reason

/-- What can go wrong with a file that is to be read as text. -/
inductive TextFault where
  | file (fault : FileFault)
  /-- The bytes are not UTF-8. -/
  | notText
  deriving DecidableEq, Repr

def TextFault.message : TextFault → String
  | file fault => fault.message
  | notText => "stream did not contain valid UTF-8"

/-- Surroundings with files. -/
class FileAccess (m : Type → Type) where
  contents : String → m (Except FileFault Bytes)
  /-- Makes a file of these bytes, or gives a file these bytes. -/
  setContents : String → Bytes → m (Except FileFault Unit)
  remove : String → m (Except FileFault Unit)
  /-- Makes a folder in a folder. -/
  makeFolder : String → m (Except FileFault Unit)
  /-- Whether there is anything under the path. -/
  isPresent : String → m Bool
  /-- Whether there is a folder under the path. -/
  isFolder : String → m Bool

namespace FileAccess

variable {m : Type → Type} [Monad m] [FileAccess m]

def readText (path : String) : m (Except TextFault String) := do
  match ← contents path with
  | .error fault => return .error (.file fault)
  | .ok data =>
    match Utf8.text? data with
    | none => return .error .notText
    | some text => return .ok text

/-- Makes a folder, unless it is there. -/
def ensureFolder (path : String) : m (Except FileFault Unit) := do
  match ← makeFolder path with
  | .ok () => return .ok ()
  | .error fault => if ← isFolder path then return .ok () else return .error fault

/-- Makes the first folder of the list after those behind it, which are the folders above it. A
folder that can be made at once, or is there, needs nothing above it. The empty path stands for
where all relative paths start and needs nothing. -/
def makeFrom : List String → m (Except FileFault Unit)
  | [] => return .error (.other "failed to create whole tree")
  | path :: above =>
    if path = "" then return .ok ()
    else do
      match ← makeFolder path with
      | .ok () => return .ok ()
      | .error .missing =>
        match ← makeFrom above with
        | .ok () => ensureFolder path
        | .error fault => return .error fault
      | .error fault => if ← isFolder path then return .ok () else return .error fault

/-- Makes a folder with all folders above it. -/
def makeFolders (path : String) : m (Except FileFault Unit) :=
  makeFrom (Path.ancestors path)

/-- Makes the folder in which a path lies, if the path names one. -/
def makeParent (path : String) : m (Except FileFault Unit) :=
  match Path.parent path with
  | none => return .ok ()
  | some above => if above = "" then return .ok () else makeFolders above

end FileAccess

end DiveLink

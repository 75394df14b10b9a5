import DiveLink.Files.Access
import DiveLink.Word

/-!
# Files in memory

Files and folders by the names that lead to them from the root.

1. `Files` holds the entries, `Files.entry?` looks one up, `Files.put` and `Files.drop` change one.
2. `Files.locate` follows a path: every name on the way has to lead to a folder. `Files.find` also
   looks at the last name.
3. `Files.contents` and its companions make `Files` a place that has `FileAccess`.
-/

namespace DiveLink

/-- What a name leads to. -/
inductive Entry where
  | file (data : Bytes)
  | folder
  deriving DecidableEq, Repr

/-- Files and folders. -/
structure Files where
  /-- Every entry but the root, by the names that lead to it. -/
  entries : List (List String × Entry)
  /-- The folder where relative paths start. -/
  home : List String
  deriving DecidableEq, Repr

namespace Files

/-! ## §1 Entries -/

/-- The folders on the way to a folder, and the folder itself. -/
def foldersOn (names : List String) : List (List String) :=
  (List.range names.length).map fun n => names.take (n + 1)

/-- No files but the folder where relative paths start. -/
def startingAt (home : List String) : Files :=
  ⟨(foldersOn home).map (·, .folder), home⟩

/-- What the names lead to. -/
def entry? (files : Files) (names : List String) : Option Entry :=
  if names = [] then some .folder else files.entries.lookup names

/-- The files without the entry of these names. -/
def drop (files : Files) (names : List String) : Files :=
  { files with entries := files.entries.filter (·.1 ≠ names) }

/-- The files with an entry under these names. -/
def put (files : Files) (names : List String) (entry : Entry) : Files :=
  { files.drop names with entries := (names, entry) :: (files.drop names).entries }

/-! ## §2 Paths -/

/-- The greatest size of a name. -/
def nameLimit : Nat := 255

/-- The greatest size of a path. -/
def pathLimit : Nat := 4095

/-- Where a path leads. -/
structure Spot where
  names : List String
  /-- What is there. -/
  entry : Option Entry
  /-- Whether the path can only mean a folder. -/
  wantsFolder : Bool
  deriving DecidableEq, Repr

/-- What the path means of what is there: a path for a folder does not mean a file. -/
def Spot.meant (spot : Spot) : Except FileFault Entry :=
  match spot.entry with
  | none => .error .missing
  | some .folder => .ok .folder
  | some (.file data) => if spot.wantsFolder then .error .notFolder else .ok (.file data)

/-- Whether a name is longer than names can be. -/
def isTooLong (name : String) : Bool := decide (nameLimit < (Utf8.bytes name).length)

/-- The spot, unless its own name is too long. -/
def Spot.checked (spot : Spot) : Except FileFault Spot :=
  if spot.names.getLast?.any isTooLong then .error .nameTooLong else .ok spot

/-- Follows names from a folder. The last name may be too long. -/
def follow (files : Files) (wantsFolder : Bool) :
    List String → List String → Except FileFault Spot
  | folder, [] => .ok ⟨folder, some .folder, true⟩
  | folder, name :: names =>
    if name = "." then follow files wantsFolder folder names
    else if name = ".." then follow files wantsFolder folder.dropLast names
    else
      let target := folder ++ [name]
      let entry := files.entry? target
      if names = [] then .ok ⟨target, entry, wantsFolder⟩
      else if isTooLong name then .error .nameTooLong
      else match entry with
        | none => .error .missing
        | some (.file _) => .error .notFolder
        | some .folder => follow files wantsFolder target names

/-- Follows a path. -/
def locate (files : Files) (path : String) : Except FileFault Spot :=
  if Char.ofNat 0 ∈ path.toList then .error .nulInPath
  else if path = "" then .error .missing
  else if pathLimit < (Utf8.bytes path).length then .error .nameTooLong
  else follow files (Path.endsInSlash path) (if Path.isAbsolute path then [] else files.home)
    (Path.parts path)

/-- Follows a path and looks at what it leads to. -/
def find (files : Files) (path : String) : Except FileFault Spot := do
  (← files.locate path).checked

/-! ## §3 What can be done with files -/

def contents (files : Files) (path : String) : Except FileFault Bytes := do
  match ← (← files.find path).meant with
  | .folder => throw .folder
  | .file data => return data

/-- Makes a file, or replaces its bytes. A path that means a folder is refused without a look at
what is there. -/
def setContents (files : Files) (path : String) (data : Bytes) : Except FileFault Files := do
  let spot ← files.locate path
  if spot.wantsFolder then throw .folder
  let spot ← spot.checked
  if spot.entry = some .folder then throw .folder
  else return files.put spot.names (.file data)

def remove (files : Files) (path : String) : Except FileFault Files := do
  let spot ← files.find path
  match ← spot.meant with
  | .folder => throw .folder
  | .file _ => return files.drop spot.names

/-- Makes a folder in a folder. -/
def makeFolder (files : Files) (path : String) : Except FileFault Files := do
  let spot ← files.find path
  match spot.entry with
  | none => return files.put spot.names .folder
  | some _ => throw .taken

/-- What is under a path. -/
def under? (files : Files) (path : String) : Option Entry :=
  ((files.find path).bind Spot.meant).toOption

/-- Keeps the files that an operation leaves, or the files as they were when it fails. -/
def after (files : Files) (result : Except FileFault Files) : Except FileFault Unit × Files :=
  match result with
  | .error fault => (.error fault, files)
  | .ok files => (.ok (), files)

end Files

instance : FileAccess (StateM Files) where
  contents path := fun files => (files.contents path, files)
  setContents path data := fun files => files.after (files.setContents path data)
  remove path := fun files => files.after (files.remove path)
  makeFolder path := fun files => files.after (files.makeFolder path)
  isPresent path := fun files => ((files.under? path).isSome, files)
  isFolder path := fun files => (files.under? path == some .folder, files)

end DiveLink

import DiveLink.CommandLine.Run

/-!
# The command line

Runs the tool on the files of the host.
-/

open DiveLink

/-- What the host says about a file that it does not give. -/
def faultOfHost : IO.Error → FileFault
  | .noFileOrDirectory .. => .missing
  | .alreadyExists .. => .taken
  | .inappropriateType _ 21 _ => .folder
  | .inappropriateType .. => .notFolder
  | .invalidArgument _ 36 _ => .nameTooLong
  | .permissionDenied _ code details => .other s!"{details} (os error {code})"
  | error => .other (toString error)

/-- Does something with the files of the host under a path. -/
def onHost {α : Type} (path : String) (action : IO α) : IO (Except FileFault α) := do
  if Char.ofNat 0 ∈ path.toList then return .error .nulInPath
  else match ← action.toBaseIO with
    | .ok a => return .ok a
    | .error error => return .error (faultOfHost error)

/-- Whether there is a folder of the host under a path. -/
def isFolderOnHost (path : String) : IO Bool := do
  return (← onHost path do (← IO.FS.realPath path).isDir).toOption.getD false

instance : FileAccess IO where
  contents path := onHost path do return (← IO.FS.readBinFile path).toList
  setContents path data := onHost path (IO.FS.writeBinFile path ⟨data.toArray⟩)
  remove path := do
    if ← isFolderOnHost path then return .error .folder
    else onHost path (IO.FS.removeFile path)
  makeFolder path := onHost path (IO.FS.createDir path)
  isPresent path := do return (← onHost path (IO.FS.realPath path)).isOk
  isFolder path := isFolderOnHost path

/-- Runs the tool on the arguments of the command line. -/
def main (arguments : List String) : IO UInt32 := do
  let home ← IO.getEnv "HOME"
  let filter ← IO.getEnv "G2_LOG"
  let ending ← CommandLine.run ⟨home.map CommandLine.ownFolderOf, filter⟩ arguments
  IO.print ending.output
  if let some complaint := ending.complaint then
    IO.eprintln complaint
  return UInt32.ofNat ending.exit

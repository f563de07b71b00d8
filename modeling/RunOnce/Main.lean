import RunOnce.Command.CommandLine

/-!
# The program

Runs the command line on the files of the disk. Everything that is decided is
decided elsewhere; here requests on files become actions, and the report is
written to the streams.
-/

namespace RunOnce

open RunOnce.Command
open RunOnce.Files

/-- The cause of a failed action on files. -/
def causeOf : IO.Error → Cause
  | .permissionDenied .. => .denied
  | .alreadyExists .. => .alreadyThere
  | .noFileOrDirectory .. => .missing
  | .inappropriateType .. => .notDirectory
  | .invalidArgument _ 36 _ => .nameTooLong
  | _ => .isDirectory

/-- Run an action on a path and report its fault. -/
def attempt {α : Type} (path : Path) (action : IO α) : IO (Except Fault α) := do
  if Path.hasNul path.text then pure (.error ⟨.hasNul, path⟩)
  else
    try
      let value ← action
      pure (.ok value)
    catch error => pure (.error ⟨causeOf error, path⟩)

/-- The kind of what stands at a path on the disk. -/
def kindOnDisk (path : Path) : IO Kind := do
  let here ← IO.currentDir
  let found ← (here / path.text).metadata
  pure (if found.type == .dir then .directory else .file)

/-- What stands at a path on the disk, if anything does. -/
def lookUpOnDisk (path : Path) : IO (Except Fault (Option Kind)) := do
  match ← attempt path (kindOnDisk path) with
  | .ok kind => pure (.ok (some kind))
  | .error ⟨.missing, _⟩ | .error ⟨.notDirectory, _⟩ => pure (.ok none)
  | .error fault => pure (.error fault)

/-- The names in a directory on the disk. -/
def listOnDisk (path : Path) : IO (List String) := do
  let here ← IO.currentDir
  let entries ← (here / path.text).readDir
  pure (entries.toList.map fun entry => entry.fileName)

/-- Refuse a directory where a file is wanted. -/
def attemptOnFile {α : Type} (path : Path) (action : IO α) : IO (Except Fault α) := do
  match ← lookUpOnDisk path with
  | .ok (some .directory) => pure (.error ⟨.isDirectory, path⟩)
  | _ => attempt path action

instance : Store IO where
  lookUp path := lookUpOnDisk path
  read path := attemptOnFile path (IO.FS.readBinFile path.text)
  list path := attempt path (listOnDisk path)
  makeDirectory path := attempt path (IO.FS.createDir path.text)
  write path content := attemptOnFile path (IO.FS.writeBinFile path.text content)

/-- The text of an entry of the environment. In one that is no text, each byte beyond ASCII
is replaced. -/
def entryText (bytes : List UInt8) : String :=
  (String.fromUTF8? ⟨bytes.toArray⟩).getD
    (String.ofList (bytes.map fun byte => if byte < 0x80 then Char.ofNat byte.toNat else '\uFFFD'))

/-- The name and the value of an entry of the environment. -/
def entryOf (text : String) : String × String :=
  (String.ofList (text.toList.takeWhile (· ≠ '=')),
    String.ofList ((text.toList.dropWhile (· ≠ '=')).drop 1))

/-- The environment, as pairs of names and values. -/
def readEnvironment : IO (List (String × String)) := do
  try
    let content ← IO.FS.readBinFile "/proc/self/environ"
    pure ((Text.splitOn 0 content.toList).map fun entry => entryOf (entryText entry))
  catch _ => pure []

/-- What is added to the error stream about a program that ends so. -/
def lastWords : Conclusion → String
  | .reached (.misused error) => "Error: " ++ error.message ++ "\n"
  | .reached (.escaped .encoding) => "Error: the program cannot be encoded\n"
  | .reached (.escaped _) => "Error: the input cannot be read\n"
  | .unshowable error => "Error: " ++ error.message ++ "\n"
  | .reached _ => ""

end RunOnce

/-- Run the program. -/
def main (words : List String) : IO UInt32 := do
  let environment ← RunOnce.readEnvironment
  let report ← RunOnce.Command.CommandLine.run environment words
  IO.print report.output
  IO.eprint (report.errors ++ RunOnce.lastWords report.conclusion)
  pure report.conclusion.exitCode.toUInt32

import RunOnce.Files.Path
import RunOnce.Text.Quoted

/-!
# File stores

What a program may ask of the files around it: what stands at a path, the
content of a file, the names in a directory, a new directory, a new content. Requests that cannot be met
are answered with a fault. The requests are open to any carrier, so that one
program runs on the disk and on a tree in memory.
-/

namespace RunOnce.Files

open RunOnce.Text

universe u

/-- What may stand at a path. -/
inductive Kind
  | directory
  | file
deriving DecidableEq, Repr

/-- Why a request on files cannot be met. -/
inductive Cause
  | missing
  | denied
  | alreadyThere
  | notDirectory
  | isDirectory
  | nameTooLong
  /-- The path has a character that no name may have. -/
  | hasNul
deriving DecidableEq, Repr

namespace Cause

/-- The number of a cause, if it has one. -/
def number? : Cause → Option Nat
  | missing => some 2
  | denied => some 13
  | alreadyThere => some 17
  | notDirectory => some 20
  | isDirectory => some 21
  | nameTooLong => some 36
  | hasNul => none

/-- The text of a cause. -/
def text : Cause → String
  | missing => "No such file or directory"
  | denied => "Permission denied"
  | alreadyThere => "File exists"
  | notDirectory => "Not a directory"
  | isDirectory => "Is a directory"
  | nameTooLong => "File name too long"
  | hasNul => "embedded null byte"

end Cause

/-- A request on a path that cannot be met. -/
structure Fault where
  cause : Cause
  path : Path
deriving DecidableEq, Repr

/-- The message of a fault. -/
def Fault.message (fault : Fault) : String :=
  match fault.cause.number? with
  | some number =>
    "[Errno " ++ toString number ++ "] " ++ fault.cause.text ++ ": " ++
      Quoted.encode fault.path.text
  | none => fault.cause.text

/-- A carrier of file requests. -/
class Store (m : Type → Type u) where
  /-- What stands at a path, if anything does. -/
  lookUp : Path → m (Except Fault (Option Kind))
  /-- The content of a file. -/
  read : Path → m (Except Fault ByteArray)
  /-- The names in a directory. -/
  list : Path → m (Except Fault (List String))
  /-- Make a directory in a directory that is there. -/
  makeDirectory : Path → m (Except Fault Unit)
  /-- Give a file a new content. The file is made if it is not there. -/
  write : Path → ByteArray → m (Except Fault Unit)

namespace Store

variable {m : Type → Type u} [Monad m] [Store m]

/-- Whether a text, taken as a path, names a directory. The empty text names
nothing. -/
def namesDirectory (text : String) : m Bool := do
  if text = "" then pure false
  else
    match ← lookUp (Path.ofText text) with
    | .ok (some .directory) => pure true
    | _ => pure false

/-- Accept a directory in spite of a fault, if there is one at the path. -/
def acceptDirectory (path : Path) (fault : Fault) : m (Except Fault Unit) := do
  match ← lookUp path with
  | .ok (some .directory) => pure (.ok ())
  | _ => pure (.error fault)

/-- Make a directory whose parent is there. A directory that is already there is
as good as a new one. -/
def ensureDirectory (path : Path) : m (Except Fault Unit) := do
  match ← makeDirectory path with
  | .ok () => pure (.ok ())
  | .error fault => acceptDirectory path fault

/-- Make a directory and the directories above it that are missing. The names
are those of the path, the last one first. -/
def ensureDirectories (slashes : Nat) : List String → m (Except Fault Unit)
  | [] => ensureDirectory ⟨slashes, []⟩
  | name :: above => do
    let path : Path := ⟨slashes, (name :: above).reverse⟩
    match ← makeDirectory path with
    | .ok () => pure (.ok ())
    | .error ⟨.missing, _⟩ =>
      match ← ensureDirectories slashes above with
      | .ok () => ensureDirectory path
      | .error fault => pure (.error fault)
    | .error fault => acceptDirectory path fault

/-- Give a file a new content, making the directories above it. -/
def writeDeep (path : Path) (content : ByteArray) : m (Except Fault Unit) := do
  match ← ensureDirectories path.slashes path.parent.names.reverse with
  | .ok () => write path content
  | .error fault => pure (.error fault)

end Store

end RunOnce.Files

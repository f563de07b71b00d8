import RunOnce.Compile.Assembly
import RunOnce.Digest.Sha256
import RunOnce.Source.Loading

/-!
# Compiling files

A project's file is loaded and compiled, and the program carries the digest of
the file's bytes. Its text may have stand-ins for codes that are no characters, but the
name of its default target may not.
-/

namespace RunOnce.Source

open RunOnce.Compile
open RunOnce.Digest
open RunOnce.Expansion
open RunOnce.Files
open RunOnce.Journal
open RunOnce.Text

universe u

/-- Why a file cannot be compiled, with the stand-ins in what is told about it. -/
inductive CompileError
  | load (error : LoadError)
  | failure (failure : Failure) (standIns : StandIns)
  /-- The name of the default target has codes that are no characters. -/
  | damagedEntry (standIns : StandIns)

/-- The digest of a file's content. -/
def digest (content : ByteArray) : String :=
  sha256Hex content.toList

/-- Complete what was compiled from a file. -/
def complete (standIns : StandIns) (content : ByteArray) (compiled : Compiled) :
    Except CompileError Compiled :=
  if standIns.areAbsentFrom compiled.defaultTarget then
    .ok { compiled with sourceHash := some (digest content), standIns := standIns }
  else .error (.damagedEntry standIns)

/-- Compile the content of the file at a path. Without an expander the project's own
properties are used. -/
def compileContent (expander? : Option Expander) (settings : Settings)
    (globals : List (String × String)) (path : Path) (content : ByteArray) :
    Traced CompileError Compiled := do
  let loaded ← Traced.ofExcept
    ((readProject (otherCharacters globals path) content).mapError .load)
  Traced.report (.projectLoaded path.text (digest content))
  let compiled ← (compileWith expander? settings globals loaded.project).mapError
    fun failure => .failure failure loaded.standIns
  Traced.ofExcept (complete loaded.standIns content compiled)

variable {m : Type → Type u} [Monad m] [Store m]

/-- Compile the file at a path. -/
def compileFile (expander? : Option Expander) (settings : Settings)
    (globals : List (String × String)) (path : Path) : m (Traced CompileError Compiled) := do
  match ← fetch path with
  | .error error => pure (.ofExcept (.error (.load error)))
  | .ok content => pure (compileContent expander? settings globals path content)

end RunOnce.Source

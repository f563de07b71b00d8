import RunOnce.Command.Transcript
import RunOnce.Command.Words
import RunOnce.Schema.ProjectSchema

/-!
# Exporting the schema on the command line

Writes the schema of project documents to a file.
-/

namespace RunOnce.Command

open RunOnce.Files
open RunOnce.Schema

universe u

/-- Write the schema of project documents to a file, making the directories
above it. -/
def exportSchema {m : Type → Type u} [Monad m] [Store m] (path : Path) : m (Except Fault Unit) :=
  Store.writeDeep path projectSchemaText.toUTF8

namespace SchemaCommand

/-- An option with what was given for it. -/
inductive Given
  | output (path : String)
  | help
deriving DecidableEq, Repr

/-- The names of the options. -/
def options : Options Given := [
  ("-o", .valued .output), ("--output", .valued .output),
  ("--help", .flag .help)]

/-- How the command is used. -/
def usage : String :=
  "\n".intercalate
    ["Usage: flatbuild schema export [OPTIONS]",
      "",
      "  Export the ProjectModel JSON Schema.",
      "",
      "Options:",
      "  -o, --output PATH  Where the schema is written.",
      "  --help             Show this message and exit.",
      ""]

/-- The path that the schema is written to. -/
def outputOf (given : List Given) : String :=
  ((given.filterMap fun | .output path => some path | _ => none).getLast?).getD
    "./schemas/project-model.schema.json"

variable {m : Type → Type u} [Monad m] [Store m]

/-- Write the schema to the file that a text names. -/
def execute (shown : String) : m Transcript := do
  let path := Path.ofText shown
  match ← exportSchema path with
  | .ok () => pure { notices := [.status .success ("Schema exported to " ++ path.text)] }
  | .error fault =>
    pure (.ofTrouble [] (if fault.cause = .denied then .denied "write" shown
      else .schemaExport fault))

/-- Run the command. -/
def run (words : List String) : m Transcript := do
  match readWords options true words with
  | .error error => pure (.ofMisuse error)
  | .ok words =>
    if words.given.contains .help then pure { output := usage }
    else
      match Ending.ofPathText? (outputOf words.given), words.onlyOptions with
      | some ending, _ => pure { ending := ending }
      | none, .error error => pure (.ofMisuse error)
      | none, .ok given => execute (outputOf given)

end SchemaCommand

end RunOnce.Command

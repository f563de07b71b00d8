import RunOnce.Command.OptionValue
import RunOnce.Command.Transcript
import RunOnce.Command.Words

/-!
# Compiling on the command line

Compiles a project file and writes the program to the output stream or to a
file. Settings that no option gives come from the environment.
-/

namespace RunOnce.Command

open RunOnce.Document
open RunOnce.Files
open RunOnce.Journal
open RunOnce.Source

universe u

namespace CompileCommand

/-- The options. -/
inductive Choice
  | file
  | output
  | property
  | parameterOrder
  | itemSchemas
  | detectCycles
  | workers
  | help
deriving DecidableEq, Repr

/-- An option with what was given for it. -/
inductive Given
  | file (path : String)
  | output (path : String)
  | property (assignment : String)
  | parameterOrder (order : String)
  | itemSchemas (written : Bool)
  | detectCycles (checked : Bool)
  | workers (count : String)
  | help
deriving DecidableEq, Repr

/-- The option that something was given for. -/
def Given.choice : Given → Choice
  | file _ => .file
  | output _ => .output
  | property _ => .property
  | parameterOrder _ => .parameterOrder
  | itemSchemas _ => .itemSchemas
  | detectCycles _ => .detectCycles
  | workers _ => .workers
  | help => .help

/-- The names of the options. -/
def options : Options Given := [
  ("-f", .valued .file), ("--file", .valued .file),
  ("-o", .valued .output), ("--output", .valued .output),
  ("-p", .valued .property), ("--property", .valued .property),
  ("--parameter-order", .valued .parameterOrder),
  ("--item-schemas", .flag (.itemSchemas true)),
  ("--no-item-schemas", .flag (.itemSchemas false)),
  ("--detect-cycles", .flag (.detectCycles true)),
  ("--no-detect-cycles", .flag (.detectCycles false)),
  ("--workers", .valued .workers),
  ("--help", .flag .help)]

/-- How the command is used. -/
def usage : String :=
  "\n".intercalate
    ["Usage: flatbuild compile [OPTIONS]",
      "",
      "  Generate the procedural program for an evaluated project.",
      "",
      "Options:",
      "  -f, --file PATH                       The evaluated project model.",
      "  -o, --output FILE                     Write the program to this file.",
      "  -p, --property NAME=VALUE             Override a property (repeatable).",
      "  --parameter-order [sorted|declared]   Task parameter order.",
      "  --item-schemas / --no-item-schemas    Emit a type per item schema.",
      "  --detect-cycles / --no-detect-cycles  Fail on a cyclic call graph.",
      "  --workers N                           Targets compiled at a time.",
      "  --help                                Show this message and exit.",
      ""]

/-- The last value that was given, of those that a function picks. -/
def last? {α : Type} (given : List Given) (pick : Given → Option α) : Option α :=
  (given.filterMap pick).getLast?

/-- The path of the project file. -/
def fileOf (given : List Given) : String :=
  (last? given fun | .file path => some path | _ => none).getD "./project.yaml"

/-- The path that the program is written to. -/
def outputOf (given : List Given) : Option String :=
  last? given fun | .output path => some path | _ => none

/-- All assignments, in order. -/
def assignmentsOf (given : List Given) : List String :=
  given.filterMap fun | .property assignment => some assignment | _ => none

/-- The order of parameters. -/
def orderOf (given : List Given) : Option String :=
  last? given fun | .parameterOrder order => some order | _ => none

/-- Whether record types are written. -/
def itemSchemasOf (given : List Given) : Option Bool :=
  last? given fun | .itemSchemas written => some written | _ => none

/-- Whether cycles are refused. -/
def detectCyclesOf (given : List Given) : Option Bool :=
  last? given fun | .detectCycles checked => some checked | _ => none

/-- How many targets are compiled at a time. -/
def workersOf (given : List Given) : Option String :=
  last? given fun | .workers count => some count | _ => none

/-- The words that name an order of parameters. -/
def orderWords : List String :=
  ["sorted", "declared"]

/-- Read the number of workers. -/
def readWorkers (count : String) : Except ValueProblem Nat :=
  readRange 1 64 count

/-- How the command ends over what was given for an option. -/
def problem? (given : List Given) (outputIsDirectory : Bool) : Choice → Option Ending
  | .file => Ending.ofPathText? (fileOf given)
  | .output =>
    (outputOf given).bind fun path =>
      if outputIsDirectory then some (.misused (.badValue ["-o", "--output"] (.isDirectory path)))
      else Ending.ofPathText? path
  | .property =>
    match readProperties (assignmentsOf given) with
    | .error problem => some (.misused (.badValue ["-p", "--property"] problem))
    | .ok _ => none
  | .parameterOrder =>
    match (orderOf given).map (readChoice orderWords) with
    | some (.error problem) => some (.misused (.badValue ["--parameter-order"] problem))
    | _ => none
  | .workers =>
    match (workersOf given).map readWorkers with
    | some (.error problem) => some (.misused (.badValue ["--workers"] problem))
    | _ => none
  | .itemSchemas | .detectCycles | .help => none

/-- How the command ends over the first thing that is wrong, in the order in
which options first appear. -/
def firstProblem? (given : List Given) (outputIsDirectory : Bool) : Option Ending :=
  (given.map Given.choice).eraseDups.findSome? (problem? given outputIsDirectory)

/-- What the options ask for. -/
structure Request where
  file : String := "./project.yaml"
  output : Option String := none
  globals : List (String × String) := []
  arguments : List (String × Value) := []

/-- The settings that options give. -/
def settingsArguments (given : List Given) : List (String × Value) :=
  ((orderOf given).map fun order => ("parameter_order", .text order)).toList ++
  ((itemSchemasOf given).map fun written => ("emit_item_schemas", .bool written)).toList ++
  ((detectCyclesOf given).map fun checked => ("detect_cycles", .bool checked)).toList ++
  ((workersOf given).bind fun count =>
    (readWorkers count).toOption.map fun count => ("max_workers", .int count)).toList

/-- The request that options make when nothing is wrong with them. -/
def requestOf (given : List Given) : Request where
  file := fileOf given
  output := outputOf given
  globals := (readProperties (assignmentsOf given)).toOption.getD []
  arguments := settingsArguments given

variable {m : Type → Type u} [Monad m] [Store m]

/-- Read the options. -/
def readRequest (given : List Given) : m (Except Ending Request) := do
  let outputIsDirectory ← match outputOf given with
    | some path => Store.namesDirectory path
    | none => pure false
  match firstProblem? given outputIsDirectory with
  | some ending => pure (.error ending)
  | none => pure (.ok (requestOf given))

/-- The message about a written program. -/
def writtenMessage (compiled : Compile.Compiled) (output : Path) : String :=
  "Compiled " ++ toString compiled.targets.length ++ " targets to " ++ output.text ++
    " (default target: " ++ compiled.defaultTarget ++ ")"

/-- The trouble with a file that cannot be written. -/
def writeTrouble (shown : String) (fault : Fault) : Trouble :=
  if fault.cause = .denied then .denied "write" shown else .unwritable shown fault.cause

/-- What a file gets of a program: all of its text, or nothing if it cannot be encoded. -/
def fileContent (compiled : Compile.Compiled) : ByteArray :=
  if compiled.isEncodable then compiled.text.toUTF8 else .empty

/-- Hand a program over. That its text cannot be encoded shows on the output stream before
anything is written, and in a file after that was emptied. -/
def deliver (output : Option String) (events : List Event) (compiled : Compile.Compiled) :
    m Transcript := do
  let transcript : Transcript :=
    { notices := events.map .event, standIns := compiled.standIns }
  match output with
  | none =>
    if compiled.isEncodable then pure { transcript with output := compiled.text }
    else pure { transcript with ending := .escaped .encoding }
  | some shown =>
    let path := Path.ofText shown
    match ← Store.writeDeep path (fileContent compiled) with
    | .error fault => pure (.ofTrouble events (writeTrouble shown fault) compiled.standIns)
    | .ok () =>
      if compiled.isEncodable then
        pure { transcript with
          notices := transcript.notices ++ [.status .success (writtenMessage compiled path)] }
      else pure { transcript with ending := .escaped .encoding }

/-- Compile with given settings. -/
def compileUnder (settings : Settings) (request : Request) : m Transcript := do
  let path := Path.ofText request.file
  let compiled ← compileFile none settings request.globals path
  match compiled.outcome with
  | .ok program => deliver request.output compiled.events program
  | .error (.failure failure standIns) =>
    pure (.ofTrouble compiled.events (.compilation failure) standIns)
  | .error (.damagedEntry standIns) =>
    pure (.ofTrouble compiled.events (.load request.file (.invalid [damagedEntryIssue])) standIns)
  | .error (.load error) =>
    match Trouble.ofLoadError request.file path error with
    | .ok trouble => pure (.ofTrouble compiled.events trouble)
    | .error escape =>
      pure { notices := compiled.events.map .event, ending := .escaped escape }

/-- Do what is asked for. -/
def execute (environment : List (String × String)) (request : Request) : m Transcript := do
  match ← findSettings request.arguments environment with
  | .error (.invalid issues) => pure (.ofTrouble [] (.invalidSettings issues))
  | .error error => pure { ending := .escaped (.settings error) }
  | .ok settings => compileUnder settings request

/-- Run the command. -/
def run (environment : List (String × String)) (words : List String) : m Transcript := do
  match readWords options true words with
  | .error error => pure (.ofMisuse error)
  | .ok words =>
    if words.given.contains .help then pure { output := usage }
    else
      match ← readRequest words.given with
      | .error ending => pure { ending := ending }
      | .ok request =>
        match words.onlyOptions with
        | .error error => pure (.ofMisuse error)
        | .ok _ => execute environment request

end CompileCommand

end RunOnce.Command

import RunOnce.Command.OptionValue
import RunOnce.Command.Transcript
import RunOnce.Command.Words
import RunOnce.Ordering.Dangling

/-!
# Validating on the command line

Checks a project file: its form, its default target, the lists of targets to
run before and after, and the call graph. References to targets that are not
declared are warned about, and refused on request.
-/

namespace RunOnce.Command

open RunOnce.Compile
open RunOnce.Expansion
open RunOnce.Files
open RunOnce.Journal
open RunOnce.Model
open RunOnce.Ordering
open RunOnce.Source

universe u

/-- The checks that a project must pass, which find its default target. -/
def checkProject (settings : Settings) (globals : List (String × String)) (project : Project) :
    Traced Failure String := do
  let expander := (PropertyTable.ofProject project globals).expand
  let entry ← resolveDefaultTarget project expander settings globals
  let producers ← Producers.ofTargets expander project.targets
  checkAcyclic expander producers project.targets
  pure entry

namespace ValidateCommand

/-- The options. -/
inductive Choice
  | file
  | property
  | strict
  | help
deriving DecidableEq, Repr

/-- An option with what was given for it. -/
inductive Given
  | file (path : String)
  | property (assignment : String)
  | strict
  | help
deriving DecidableEq, Repr

/-- The option that something was given for. -/
def Given.choice : Given → Choice
  | file _ => .file
  | property _ => .property
  | strict => .strict
  | help => .help

/-- The names of the options. -/
def options : Options Given := [
  ("-f", .valued .file), ("--file", .valued .file),
  ("-p", .valued .property), ("--property", .valued .property),
  ("--strict", .flag .strict),
  ("--help", .flag .help)]

/-- How the command is used. -/
def usage : String :=
  "\n".intercalate
    ["Usage: flatbuild validate [OPTIONS]",
      "",
      "  Validate an evaluated project model.",
      "",
      "Options:",
      "  -f, --file PATH            The evaluated project model.",
      "  -p, --property NAME=VALUE  Override a property (repeatable).",
      "  --strict                   Treat undeclared targets as errors.",
      "  --help                     Show this message and exit.",
      ""]

/-- What the options ask for. -/
structure Request where
  file : String := "./project.yaml"
  globals : List (String × String) := []
  strict : Bool := false
deriving DecidableEq, Repr

/-- The path of the project file. -/
def fileOf (given : List Given) : String :=
  (given.filterMap fun | .file path => some path | _ => none).getLast?.getD "./project.yaml"

/-- All assignments, in order. -/
def assignmentsOf (given : List Given) : List String :=
  given.filterMap fun | .property assignment => some assignment | _ => none

/-- How the command ends over what was given for an option. -/
def problem? (given : List Given) : Choice → Option Ending
  | .file => Ending.ofPathText? (fileOf given)
  | .property =>
    match readProperties (assignmentsOf given) with
    | .error problem => some (.misused (.badValue ["-p", "--property"] problem))
    | .ok _ => none
  | .strict | .help => none

/-- Read the options, which are checked in the order in which they first
appear. -/
def readRequest (given : List Given) : Except Ending Request :=
  match (given.map Given.choice).eraseDups.findSome? (problem? given) with
  | some ending => .error ending
  | none =>
    .ok {
      file := fileOf given
      globals := (readProperties (assignmentsOf given)).toOption.getD []
      strict := given.contains .strict }

/-- The warning about a reference. -/
def danglingWarning (dangling : Dangling) : Notice :=
  .status .warning ("Target '" ++ dangling.target ++ "' " ++ dangling.field.label ++
    " references undeclared target '" ++ dangling.missing ++ "'")

/-- The warning about a default target that is not declared. -/
def entryWarning (entry : String) : Notice :=
  .status .warning ("Default target '" ++ entry ++ "' is not declared")

/-- The message about a project that has passed. -/
def validMessage (project : Project) (entry : String) : String :=
  "Project model valid (" ++ toString project.targets.length ++ " targets, default target: " ++
    entry ++ ")"

/-- Report on a project whose default target was found and whose calls end. -/
def reportReferences (request : Request) (project : Project) (entry : String)
    (events : List Event) : Transcript :=
  let expander := (PropertyTable.ofProject project request.globals).expand
  let search := Dangling.ofTargets expander project.targets
  let warnings := search.value.map danglingWarning ++
    (if (project.getTarget? entry).isNone then [entryWarning entry] else [])
  let notices := (events ++ search.events).map .event ++ warnings
  if request.strict && !warnings.isEmpty then
    { notices := notices, ending := .gaveUp (.undeclared warnings.length) }
  else { notices := notices ++ [.status .success (validMessage project entry)] }

/-- Check a project under given settings. -/
def validateUnder (settings : Settings) (request : Request) (project : Project) : Transcript :=
  let checked := checkProject settings request.globals project
  match checked.outcome with
  | .error failure => .ofTrouble checked.events (.validation failure)
  | .ok entry => reportReferences request project entry checked.events

variable {m : Type → Type u} [Monad m] [Store m]

/-- Do what is asked for. -/
def execute (environment : List (String × String)) (request : Request) : m Transcript := do
  let path := Path.ofText request.file
  match ← load request.globals path with
  | .error error =>
    match Trouble.ofLoadError request.file path error with
    | .ok trouble => pure (.ofTrouble [] trouble)
    | .error escape => pure { ending := .escaped escape }
  | .ok loaded =>
    match ← findSettings [] environment with
    | .error error => pure { ending := .escaped (.settings error) }
    | .ok settings =>
      pure { validateUnder settings request loaded.project with standIns := loaded.standIns }

/-- Run the command. -/
def run (environment : List (String × String)) (words : List String) : m Transcript := do
  match readWords options true words with
  | .error error => pure (.ofMisuse error)
  | .ok words =>
    if words.given.contains .help then pure { output := usage }
    else
      match readRequest words.given, words.onlyOptions with
      | .error ending, _ => pure { ending := ending }
      | _, .error error => pure (.ofMisuse error)
      | .ok request, .ok _ => execute environment request

end ValidateCommand

end RunOnce.Command

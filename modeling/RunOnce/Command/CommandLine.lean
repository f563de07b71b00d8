import RunOnce.Command.CompileCommand
import RunOnce.Command.Registry
import RunOnce.Command.SchemaCommand
import RunOnce.Command.ValidateCommand

/-!
# The command line

Options of the program itself stand before the name of a command; the words
after the name belong to the command. What is wrong with the program's own
options is told before anything about the command.
-/

namespace RunOnce.Command

open RunOnce.Files
open RunOnce.Journal

universe u

/-- The commands of the program. -/
inductive CommandKind
  | compile
  | validate
  | schema
deriving DecidableEq, Repr

/-- The name of a command. -/
def CommandKind.name : CommandKind → String
  | compile => "compile"
  | validate => "validate"
  | schema => "schema"

/-- The commands by name. -/
def commands : Registry CommandKind where
  named := [("compile", .compile), ("validate", .validate), ("schema", .schema)]

/-- The commands about the schema. -/
inductive SchemaTask
  | exportFile
deriving DecidableEq, Repr

/-- The commands about the schema, by name. -/
def schemaTasks : Registry SchemaTask where
  registered := [("export", .exportFile)]

namespace CommandLine

/-- An option with what was given for it. -/
inductive Given
  | version
  | noColor
  | logLevel (level : String)
  | help
deriving DecidableEq, Repr

/-- The options of the program itself. -/
def options : Options Given := [
  ("--version", .flag .version),
  ("--no-color", .flag .noColor),
  ("--log-level", .valued .logLevel),
  ("--help", .flag .help)]

/-- The version of the program. -/
def versionText : String :=
  "flatbuild, version 0.1.0\n"

/-- How the program is used. -/
def usage : String :=
  "\n".intercalate
    ["Usage: flatbuild [OPTIONS] COMMAND [ARGS]...",
      "",
      "  Compile declarative build graphs into procedural programs.",
      "",
      "Options:",
      "  --version                                 Show the version and exit.",
      "  --no-color                                Disable colored output.",
      "  --log-level [debug|info|warning|error]    Least level of log events.",
      "  --help                                    Show this message and exit.",
      "",
      "Commands:",
      "  compile   Generate the procedural program for an evaluated project.",
      "  schema    Manage the project model JSON Schema.",
      "  validate  Validate an evaluated project model.",
      ""]

/-- How the commands about the schema are used. -/
def schemaUsage : String :=
  "\n".intercalate
    ["Usage: flatbuild schema [OPTIONS] COMMAND [ARGS]...",
      "",
      "  Manage the project model JSON Schema.",
      "",
      "Options:",
      "  --help  Show this message and exit.",
      "",
      "Commands:",
      "  export  Export the ProjectModel JSON Schema.",
      ""]

/-- What the words before a command come to. -/
inductive Preamble
  /-- An option that answers at once. -/
  | answered (output : String)
  /-- The threshold for log lines, and the words from the command on. -/
  | proceed (threshold : Nat) (rest : List String)
deriving DecidableEq, Repr

/-- What an option answers at once. -/
def Given.answer? : Given → Option String
  | version => some versionText
  | help => some usage
  | _ => none

/-- The threshold unless an option gives another. -/
def defaultThreshold : Nat :=
  Level.rank .warning

/-- Read the threshold for log lines. -/
def readThreshold (given : List Given) : Except UsageError Nat :=
  match (given.filterMap fun | .logLevel level => some level | _ => none).getLast? with
  | none => .ok defaultThreshold
  | some level =>
    match readChoiceAnyCase levelNames level with
    | .error problem => .error (.badValue ["--log-level"] problem)
    | .ok name => .ok ((threshold? name).getD defaultThreshold)

/-- Read the words before a command. -/
def readPreamble (words : List String) : Except UsageError Preamble := do
  let words ← readWords options false words
  match words.given.findSome? Given.answer? with
  | some output => .ok (.answered output)
  | none => .ok (.proceed (← readThreshold words.given) words.others)

/-- Read the words before a command about the schema. -/
def readSchemaPreamble (words : List String) : Except UsageError Preamble := do
  let words ← readWords [("--help", .flag ())] false words
  if words.given.isEmpty then .ok (.proceed defaultThreshold words.others)
  else .ok (.answered schemaUsage)

/-- The transcript for a word that is no command. If it looks like an option the
words are read once more, in case something else is wrong with them. -/
def unknownCommand (read : List String → Except UsageError Preamble) (similar : List String)
    (name : String) (rest : List String) : Transcript :=
  if isOption name then
    match read (name :: rest) with
    | .error error => .ofMisuse error
    | .ok (.answered output) => { output := output }
    | .ok (.proceed ..) => .ofMisuse (.unknownCommand name similar)
  else .ofMisuse (.unknownCommand name similar)

variable {m : Type → Type u} [Monad m] [Store m]

/-- Run a command about the schema. -/
def runSchemaTask (words : List String) : m Transcript := do
  match readSchemaPreamble words with
  | .error error => pure (.ofMisuse error)
  | .ok (.answered output) => pure { output := output }
  | .ok (.proceed _ []) => pure (.ofMisuse .missingCommand)
  | .ok (.proceed _ (name :: rest)) =>
    match schemaTasks.find? name with
    | none => pure (unknownCommand readSchemaPreamble (schemaTasks.similar name) name rest)
    | some .exportFile => SchemaCommand.run rest

/-- Run a command of the program. -/
def runCommand (environment : List (String × String)) (command : CommandKind)
    (words : List String) : m Transcript :=
  match command with
  | .compile => CompileCommand.run environment words
  | .validate => ValidateCommand.run environment words
  | .schema => runSchemaTask words

/-- Run the program in an environment. -/
def run (environment : List (String × String)) (words : List String) : m Report := do
  match readPreamble words with
  | .error error => pure ((Transcript.ofMisuse error).report defaultThreshold)
  | .ok (.answered output) =>
    pure (Transcript.report defaultThreshold { output := output })
  | .ok (.proceed threshold []) => pure ((Transcript.ofMisuse .missingCommand).report threshold)
  | .ok (.proceed threshold (name :: rest)) =>
    match commands.find? name with
    | none =>
      pure ((unknownCommand readPreamble (commands.similar name) name rest).report threshold)
    | some command =>
      let transcript ← runCommand environment command rest
      pure ((transcript.report threshold).spellOut transcript.standIns)

end CommandLine

end RunOnce.Command

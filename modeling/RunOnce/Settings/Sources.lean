import RunOnce.Document.Scalar
import RunOnce.Settings.Basic
import RunOnce.Settings.EnvFile
import RunOnce.Text.Lowercase

/-!
# Sources of settings

Each setting is taken from the first source that has it: given options, the
arguments, the environment, the environment files, the files of secrets. A
setting that no source has keeps its default. Only the value that is taken is
checked. Some arguments are no settings but direct where settings are looked
for.
-/

namespace RunOnce.Settings

open RunOnce.Document
open RunOnce.Text

/-- Where and how settings are looked for outside of the arguments. -/
structure Search where
  /-- What the names of settings start with. -/
  stem : String := "FLATBUILD_"
  /-- Whether names must be written exactly, or may be written in any case. -/
  exactNames : Bool := false
  /-- The paths of environment files, of which a later one prevails. -/
  files : List String := [".env"]
  /-- The name of the encoding of environment files. -/
  fileEncoding : String := "utf8"
  /-- The directories with files of secrets, of which a later one prevails. -/
  secretPlaces : List String := []
  /-- Options that give settings. -/
  options : List (String × String) := []
  /-- Whether an empty text counts as nothing. -/
  ignoresEmpty : Bool := false
  /-- The text that stands for null. -/
  nullText : Option String := none
deriving DecidableEq, Repr

namespace Search

/-- The files that a value names: none, one, or a list of them. -/
def filesOf : Value → List String
  | .text path => [path]
  | .list paths _ => paths.filterMap fun | .text path => some path | _ => none
  | _ => []

/-- The settings that words give as options, a name and its value in one word or
in two. -/
def optionsOf : List String → List (String × String)
  | [] => []
  | word :: rest =>
    let cs := word.toList.drop 2
    let name := String.ofList (cs.takeWhile (· ≠ '='))
    if cs.contains '=' then
      (name, String.ofList ((cs.dropWhile (· ≠ '=')).drop 1)) :: optionsOf rest
    else
      match rest with
      | value :: rest => (name, value) :: optionsOf rest
      | [] => []

/-- Follow the direction of one argument. Null leaves all but the files as they
are. -/
def direct (search : Search) : String × Value → Search
  | ("_env_file", value) => { search with files := filesOf value }
  | (_, .null) => search
  | ("_env_file_encoding", .text name) =>
    { search with fileEncoding := if name = "" then search.fileEncoding else name }
  | ("_secrets_dir", value) => { search with secretPlaces := filesOf value }
  | ("_cli_parse_args", .list words _) =>
    { search with options := optionsOf (filesOf (.list words)) }
  | ("_env_prefix", .text stem) => { search with stem := stem }
  | ("_case_sensitive", value) => { search with exactNames := !value.isVoid }
  | ("_env_ignore_empty", value) => { search with ignoresEmpty := !value.isVoid }
  | ("_env_parse_none_str", .text text) => { search with nullText := some text }
  | _ => search

/-- The search that arguments direct. -/
def ofArguments (arguments : List (String × Value)) : Search :=
  arguments.foldl direct {}

/-- Whether a name in the environment, or of a file of secrets, is that of a
setting. -/
def names (search : Search) (setting name : String) : Bool :=
  if search.exactNames then name == search.stem ++ setting
  else lower name == lower (search.stem ++ setting)

/-- What a text in the environment stands for. -/
def meaning (search : Search) (text : String) : Value :=
  if search.nullText = some text then .null else .text text

end Search

/-- Where settings come from. -/
structure Sources where
  arguments : List (String × Value) := []
  environment : List (String × String) := []
  file : Assoc (Option String) := []
  /-- Secrets by the names of their settings. -/
  secrets : List (String × String) := []
  search : Search := {}

namespace Sources

/-- The last entry for a setting. -/
def lastEntry? (sources : Sources) (entries : List (String × Option String)) (name : String) :
    Option Value := do
  let entry ← entries.reverse.find? fun entry =>
    sources.search.names name entry.1 && !(sources.search.ignoresEmpty && entry.2 == some "")
  entry.2.map sources.search.meaning

/-- The first argument for a setting, its name in any case. -/
def argument? (sources : Sources) (name : String) : Option Value :=
  (sources.arguments.find? fun argument => lower argument.1 == name).map Prod.snd

/-- The last option for a setting. -/
def option? (sources : Sources) (name : String) : Option Value :=
  (sources.search.options.reverse.lookup name).map .text

/-- The value that is taken for a setting. -/
def effective? (sources : Sources) (name : String) : Option Value :=
  let environment := sources.environment.map fun entry => (entry.1, some entry.2)
  (sources.option? name).or <| (sources.argument? name).or <|
    (sources.lastEntry? environment name).or <| (sources.lastEntry? sources.file name).or <|
      (sources.secrets.lookup name).map .text

/-- Read one setting. -/
def setting {α : Type} (sources : Sources) (name : String) (read : Value → Checked α)
    (default : α) : Checked α :=
  match sources.effective? name with
  | some value => (read value).under (.key name)
  | none => .valid default

end Sources

/-- The names of the parameter orders. -/
def parameterOrders : List (String × ParameterOrder) :=
  [("sorted", .sorted), ("declared", .declared)]

/-- The names of the settings. -/
def settingNames : List String :=
  ["parameter_order", "emit_item_schemas", "detect_cycles", "max_workers", "indent_size",
    "default_target_property"]

/-- Read all settings. -/
def read (sources : Sources) : Checked Settings :=
  let defaults : Settings := {}
  Settings.mk <$> sources.setting "parameter_order" (readLiteral parameterOrders)
        defaults.parameterOrder
    <*> sources.setting "emit_item_schemas" readBool defaults.emitItemSchemas
    <*> sources.setting "detect_cycles" readBool defaults.detectCycles
    <*> sources.setting "max_workers" (readIntBetween 1 64) defaults.maxWorkers
    <*> sources.setting "indent_size" (readIntBetween 1 16) defaults.indentSize
    <*> sources.setting "default_target_property" readName defaults.defaultTargetProperty

/-- The document of the settings. -/
def document (settings : Settings) : Value :=
  .ofFields [("parameter_order", .text settings.parameterOrder.label),
    ("emit_item_schemas", .bool settings.emitItemSchemas),
    ("detect_cycles", .bool settings.detectCycles),
    ("max_workers", .int settings.maxWorkers),
    ("indent_size", .int settings.indentSize),
    ("default_target_property", .text settings.defaultTargetProperty)]

end RunOnce.Settings

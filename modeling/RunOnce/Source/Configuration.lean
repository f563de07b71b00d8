import RunOnce.Settings.Sources
import RunOnce.Source.Loading
import RunOnce.Text.Encoding

/-!
# Finding the settings

Settings come from arguments, from the environment, from environment files, and
from files of secrets, as far as they are there.
-/

namespace RunOnce.Source

open RunOnce.Document
open RunOnce.Files
open RunOnce.Text

universe u

/-- Why there are no settings. -/
inductive SettingsError
  /-- An environment file cannot be read. -/
  | unavailable (fault : Fault)
  /-- The bytes of an environment file are no text in its encoding. -/
  | notText
  /-- There is no encoding of a name. -/
  | unknownEncoding (name : String)
  /-- A name is that of a conversion of bytes that write no text. -/
  | notEncoding (name : String)
  /-- What should be a directory with files of secrets is a file. -/
  | notSecretPlace
  /-- The secret for a setting cannot be read. -/
  | unreadableSecret (setting : String)
  /-- A setting has a value that it cannot have. -/
  | invalid (issues : List Issue)

/-- The message of an error about encodings or secrets. -/
def SettingsError.message : SettingsError → String
  | unavailable fault => fault.message
  | notText => "the bytes write no text"
  | unknownEncoding name => "unknown encoding: " ++ name
  | notEncoding name =>
    "'" ++ name ++ "' is not a text encoding; use codecs.open() to handle arbitrary codecs"
  | notSecretPlace => "secrets_dir must reference a directory, not a file"
  | unreadableSecret setting =>
    "error getting value for field \"" ++ setting ++ "\" from source \"SecretsSettingsSource\""
  | invalid issues => issuesMessage issues

/-- The text of an environment file, without a byte order mark at its start. -/
def decodeEnvFile (encoding : String) (content : ByteArray) : Except SettingsError String :=
  match Encoding.ofName? encoding with
  | none =>
    .error (if Encoding.isConversion encoding then .notEncoding encoding
      else .unknownEncoding encoding)
  | some encoding =>
    match encoding.decode? content.toList with
    | none => .error .notText
    | some text =>
      .ok (String.ofList (match unifyLineEnds text.toList with
        | '\ufeff' :: rest => rest
        | cs => cs))

/-- The settings from given arguments, environment, entries of environment files
and secrets. -/
def readSettings (arguments : List (String × Value)) (environment : List (String × String))
    (entries : Assoc (Option String)) (secrets : List (String × String)) :
    Except SettingsError Settings :=
  match Settings.read {
      arguments := arguments
      environment := environment
      file := entries
      secrets := secrets
      search := .ofArguments arguments } with
  | .valid settings => .ok settings
  | .invalid issues => .error (.invalid issues)

variable {m : Type → Type u} [Monad m] [Store m]

/-- The content of an environment file. What is no file has none. -/
def fetchEnvFile (path : Path) : m (Except SettingsError (Option ByteArray)) := do
  match ← Store.lookUp path with
  | .ok (some .file) =>
    let content ← Store.read path
    pure ((content.map some).mapError .unavailable)
  | .ok _ | .error ⟨.hasNul, _⟩ => pure (.ok none)
  | .error fault => pure (.error (.unavailable fault))

/-- The entries of environment files, in order. -/
def readEnvFiles (encoding : String) (environment : List (String × String)) :
    List String → m (Except SettingsError (Assoc (Option String)))
  | [] => pure (.ok [])
  | file :: files => do
    match ← fetchEnvFile (Path.ofText file) with
    | .error error => pure (.error error)
    | .ok none => readEnvFiles encoding environment files
    | .ok (some content) =>
      match decodeEnvFile encoding content with
      | .error error => pure (.error error)
      | .ok text =>
        let others ← readEnvFiles encoding environment files
        pure (others.map (EnvFile.parse environment text ++ ·))

/-- The directories among the places of secrets that are there. A file cannot be
one. -/
def secretDirectories : List String → m (Except SettingsError (List Path))
  | [] => pure (.ok [])
  | place :: places => do
    let path := Path.ofText place
    match ← Store.lookUp path with
    | .ok (some .file) => pure (.error .notSecretPlace)
    | .ok (some .directory) =>
      let others ← secretDirectories places
      pure (others.map (path :: ·))
    | _ => secretDirectories places

/-- The secret for a setting in the first of some directories that has a file
for it. -/
def findSecret (search : Settings.Search) (setting : String) :
    List Path → m (Except SettingsError (Option String))
  | [] => pure (.ok none)
  | directory :: directories => do
    let names ← Store.list directory
    match (names.toOption.getD []).find? (search.names setting) with
    | none => findSecret search setting directories
    | some name =>
      match ← Store.read { directory with names := directory.names ++ [name] } with
      | .error _ => findSecret search setting directories
      | .ok content =>
        match decodeText? content with
        | some text => pure (.ok (some (Text.strip text)))
        | none => pure (.error (.unreadableSecret setting))

/-- The secrets for settings, in some directories of which a later one
prevails. -/
def findSecrets (search : Settings.Search) (directories : List Path) :
    List String → m (Except SettingsError (List (String × String)))
  | [] => pure (.ok [])
  | setting :: settings => do
    match ← findSecret search setting directories.reverse with
    | .error error => pure (.error error)
    | .ok secret =>
      let others ← findSecrets search directories settings
      pure (others.map ((secret.map (setting, ·)).toList ++ ·))

/-- Find the settings. -/
def findSettings (arguments : List (String × Value)) (environment : List (String × String)) :
    m (Except SettingsError Settings) := do
  let search := Settings.Search.ofArguments arguments
  match ← readEnvFiles search.fileEncoding environment search.files with
  | .error error => pure (.error error)
  | .ok entries =>
    match ← secretDirectories search.secretPlaces with
    | .error error => pure (.error error)
    | .ok directories =>
      let secrets ← findSecrets search directories Settings.settingNames
      pure (secrets.bind (readSettings arguments environment entries))

end RunOnce.Source

import RunOnce.Files.Store
import RunOnce.Model.Reading
import RunOnce.Text.LineEnd
import RunOnce.Yaml.Load

/-!
# Loading projects

A project is described by a document in a file. The file must be there, its
bytes must be UTF-8, its text one YAML document, and the document a project. An
empty document stands for one without fields.

Texts of a project may have codes that are no characters. These are kept as stand-ins that
are told apart from the characters of global properties and of the path.
-/

namespace RunOnce.Source

open RunOnce.Document
open RunOnce.Files
open RunOnce.Model
open RunOnce.Text

universe u

/-- Why a project cannot be loaded. -/
inductive LoadError
  /-- Nothing stands at the path. -/
  | missing (path : Path)
  /-- What stands there cannot be read. -/
  | unavailable (fault : Fault)
  /-- The bytes are not UTF-8. -/
  | notText
  /-- The text is not a YAML document. -/
  | malformed (error : Yaml.Error)
  /-- The document is not a project. -/
  | invalid (issues : List Issue)

/-- The text that bytes write, with every line ended by a line feed. -/
def decodeText? (content : ByteArray) : Option String :=
  (String.fromUTF8? content).map fun text => String.ofList (unifyLineEnds text.toList)

/-- A project as it is loaded. -/
structure Loaded where
  project : Project
  /-- What the codes of its texts that are no characters are kept as. -/
  standIns : StandIns

/-- The characters that a project meets besides its own. -/
def otherCharacters (globals : List (String × String)) (path : Path) : List Char :=
  path.text.toList ++ globals.flatMap fun entry => entry.1.toList ++ entry.2.toList

/-- The document that bytes write, and the stand-ins in it. -/
def readDocument (others : List Char) (content : List UInt8) :
    Except LoadError (Value × StandIns) :=
  match Yaml.load others (.ofBytes content) with
  | .ok (value, standIns) => .ok (if value.isVoid then .mapping [] else value, standIns)
  | .error .notText => .error .notText
  | .error error => .error (.malformed error)

/-- The project that the content of a file describes. -/
def readProject (others : List Char) (content : ByteArray) : Except LoadError Loaded :=
  (readDocument others content.toList).bind fun (document, standIns) =>
    match Project.read document with
    | .valid project => .ok ⟨project, standIns⟩
    | .invalid issues => .error (.invalid issues)

variable {m : Type → Type u} [Monad m] [Store m]

/-- The content of a project's file. -/
def fetch (path : Path) : m (Except LoadError ByteArray) := do
  match ← Store.lookUp path with
  | .ok none | .error ⟨.hasNul, _⟩ => pure (.error (.missing path))
  | .error fault => pure (.error (.unavailable fault))
  | .ok (some _) =>
    let content ← Store.read path
    pure (content.mapError .unavailable)

/-- Load the project at a path, to be used with global properties. -/
def load (globals : List (String × String)) (path : Path) : m (Except LoadError Loaded) := do
  let content ← fetch path
  pure (content.bind (readProject (otherCharacters globals path)))

end RunOnce.Source

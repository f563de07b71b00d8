import RunOnce.Yaml.Node.Compose
import RunOnce.Yaml.Node.Value

/-!
# Loading documents

Turns the characters of a YAML document into a document value: tokens are found,
nodes composed of them, and values constructed from the nodes.
-/

namespace RunOnce.Yaml

open RunOnce.Document
open RunOnce.Text

/-- The value of the only document of a text, and the stand-ins with which its texts are
kept, given the characters that come from elsewhere. A text without a document stands for
null. -/
def load (others : List Char) (characters : Characters) : Except Error (Value × StandIns) := do
  match ← NodeGraph.ofTokens (← TokenStream.ofCharacters characters) with
  | none => pure (.null, {})
  | some (graph, root) => graph.value others root

end RunOnce.Yaml

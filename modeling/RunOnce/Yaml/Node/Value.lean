import RunOnce.Document.Scalar
import RunOnce.Yaml.Node.Construct

/-!
# Values of nodes

Turns what the nodes of a graph stand for into document values. A value whose
nodes are all known is known; nodes that hold themselves never become known in
this way. Those are unrolled: each round puts the values of the round before
into them, and marks them with the numbers of their nodes.

Stand-ins are chosen once all texts of a document are known.
-/

namespace RunOnce.Yaml

open RunOnce.Document
open RunOnce.Text

namespace Shape

/-- The value of a shape, if those of the nodes that it holds are known. A list
or mapping is marked with a number. -/
def value? (known : NodeId → Option Value) (number : Option Nat) : Shape → Option Value
  | leaf value => some value
  | list items => (items.mapM known).map fun items => .list items number
  | pairs entries => do
    let items ← entries.mapM fun entry => do
      pure (Value.pair (← known entry.1) (← known entry.2))
    pure (.list items number)
  | set members => do
    let members ← members.mapM known
    pure (.set ((Value.entriesOf (members.map fun member => (member, .null))).map Prod.fst))
  | mapping entries => do
    let settings ← entries.mapM fun entry => do
      pure (← known entry.1, ← known entry.2)
    pure (.mapping (Value.entriesOf settings) number)

/-- The codes of the text that a shape can be read as. -/
def textCodes : Shape → List Nat
  | leaf value => value.textCodes
  | _ => []

/-- A shape whose text is kept with given stand-ins. -/
def keep (standIns : StandIns) : Shape → Shape
  | leaf value => leaf (value.keep standIns)
  | shape => shape

/-- A value of the kind of a shape that holds nothing. -/
def hollow (number : Option Nat) : Shape → Value
  | mapping _ => .mapping [] number
  | _ => .list [] number

end Shape

/-- The values of nodes as far as they are known. -/
abbrev Known := Array (Option Value)

namespace Known

/-- The value of a node. -/
def get? (known : Known) (id : NodeId) : Option Value :=
  known.getD id none

/-- How many values are not known. -/
def gaps (known : Known) : Nat :=
  (known.filter Option.isNone).size

/-- Learn the value of a node if it follows from what is known. -/
def learn (shapes : Array (Option Shape)) (known : Known) (id : NodeId) : Known :=
  match known.get? id, shapes.getD id none with
  | none, some shape => known.setIfInBounds id (shape.value? known.get? none)
  | _, _ => known

/-- Learn values until nothing new follows. A node mostly comes before those
that it holds, so the last node is looked at first. -/
def settle (shapes : Array (Option Shape)) : Nat → Known → Known
  | 0, known => known
  | bound + 1, known =>
    let next := (List.range shapes.size).reverse.foldl (learn shapes) known
    if next.gaps < known.gaps then settle shapes bound next else next

end Known

/-- The value of a node that may hold itself, unrolled so many times. -/
def unrolled (shapes : Array (Option Shape)) (known : Known) : Nat → Known
  | 0 => known.mapIdx fun id value? =>
    value?.or ((shapes.getD id none).map fun shape => shape.hollow (some id))
  | round + 1 =>
    let inner := unrolled shapes known round
    known.mapIdx fun id value? =>
      value?.or ((shapes.getD id none).bind fun shape => shape.value? inner.get? (some id))

/-- How far below the nodes that hold themselves a reader may look: deeper than
any part of a project. -/
def readingDepth : Nat := 9

/-- The value of a node, given what the nodes stand for. -/
def valueOf (shapes : Array (Option Shape)) (root : NodeId) : Value :=
  let known := Known.settle shapes shapes.size (Array.replicate shapes.size none)
  match known.get? root with
  | some value => value
  | none =>
    let cyclic := (known.zip shapes).filter fun entry => entry.1.isNone && entry.2.isSome
    ((unrolled shapes known (cyclic.size + readingDepth)).get? root).getD .null

/-- The value of a node, and the stand-ins with which its texts are kept, given the
characters that come from elsewhere. -/
def NodeGraph.value (graph : NodeGraph) (others : List Char) (root : NodeId) :
    Except Error (Value × StandIns) := do
  let shapes := (← graph.shapes root).toList
  let texts := shapes.map fun shape => (shape.map Shape.textCodes).getD []
  let standIns := StandIns.ofTexts texts others
  pure (valueOf ⟨shapes.map fun shape => shape.map (Shape.keep standIns)⟩ root, standIns)

end RunOnce.Yaml

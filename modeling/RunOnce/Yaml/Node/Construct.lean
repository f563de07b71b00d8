import RunOnce.Yaml.Node.Merge
import RunOnce.Yaml.Scalar

/-!
# Constructing values

Decides what each node of a graph stands for. A node is looked at once, when it
is first met: a scalar is read then, and a collection is put off until all nodes
of its level are met. So collections are filled level by level, and of several
problems the one on the outermost level is met first.

A collection that is put off is still empty, and cannot be a key in any case.
-/

namespace RunOnce.Yaml

open RunOnce.Document

/-- What a node stands for, in terms of the nodes that it holds. -/
inductive Shape
  | leaf (value : Value)
  | list (items : List NodeId)
  | pairs (entries : List (NodeId × NodeId))
  | set (members : List NodeId)
  | mapping (entries : List (NodeId × NodeId))
deriving Repr

/-- Whether what a node stands for may be a key. -/
def Shape.isKey : Shape → Bool
  | leaf value => value.isKey
  | _ => false

/-- The types of collections. -/
def isCollectionType (type : String) : Bool :=
  type ∈ ["map", "seq", "set", "omap", "pairs"]

/-- A graph of which some nodes are constructed. -/
structure Construction where
  graph : NodeGraph
  /-- What the nodes that were met stand for. -/
  shapes : Array (Option Shape)
  /-- Collections that were met and are still empty, the latest first. -/
  unfilled : List NodeId := []

/-- A step of constructing. -/
abbrev Construct := StateT Construction (Except Error)

/-- The text that a node has as a scalar: a mapping with an equals sign as key
stands for the scalar under that key. So many mappings are followed. -/
def NodeGraph.scalarText (graph : NodeGraph) : Nat → NodeId → Except Error ScalarText
  | bound, id =>
    match graph.get id with
    | .scalar _ text _ => .ok text
    | .mapping _ entries mark =>
      match entries.find? fun entry => (graph.get entry.1).hasType "value", bound with
      | some (_, under), bound + 1 => graph.scalarText bound under
      | some _, 0 => .error .tooDeep
      | none, _ => .error (.at (.expectedNode "scalar" "mapping") mark)
    | other => .error (.at (.expectedNode "scalar" other.kind) other.mark)

namespace Construct

/-- The node of a number. -/
def nodeOf (id : NodeId) : Construct Node := do
  return (← get).graph.get id

/-- Note what a node stands for. -/
def note (id : NodeId) (shape : Shape) : Construct Unit :=
  modify fun made => { made with shapes := made.shapes.setIfInBounds id (some shape) }

/-- Whether a node of a type is a point in time that is not written as a
scalar. -/
def isComposedMoment (type : String) : Node → Bool
  | .scalar .. => false
  | _ => type == "timestamp"

/-- Meet a node: read it if it is a scalar, put it off if it is a collection. -/
def meet (id : NodeId) : Construct Unit := do
  if ((← get).shapes.getD id none).isNone then
    let node ← nodeOf id
    let unknown : Error := .at (.unknownTag node.tag) node.mark
    match coreType? node.tag with
    | none => throw unknown
    | some type =>
      if isCollectionType type then
        note id (.mapping [])
        modify fun made => { made with unfilled := id :: made.unfilled }
      else
        match Scalar.reader? type with
        | none => throw unknown
        | some read =>
          let graph := (← get).graph
          let text ← (graph.scalarText chainLimit id : Except Error _)
          if isComposedMoment type node then throw (.unreadable .composedMoment)
          let value ← (read id node.mark text.codes : Except Error _)
          note id (.leaf value)

/-- Meet the key and the value of an entry. -/
def meetEntry (entry : NodeId × NodeId) : Construct Unit := do
  meet entry.1
  unless (((← get).shapes.getD entry.1 none).map Shape.isKey).getD false do
    throw (.at .unusableKey (← nodeOf entry.1).mark)
  meet entry.2

/-- Meet the entries of a mapping, among them those merged into it. -/
def meetEntries (id : NodeId) : Construct (List (NodeId × NodeId)) := do
  let (entries, graph) ← ((Link.merge id).run (← get).graph : Except Error _)
  modify fun made => { made with graph := graph }
  entries.forM meetEntry
  return entries

/-- Meet the only entry of an item of a list of pairs. -/
def meetPair (item : NodeId) : Construct (NodeId × NodeId) := do
  match ← nodeOf item with
  | .mapping _ [(key, value)] _ =>
    meet key
    meet value
    return (key, value)
  | .mapping _ entries mark => throw (.at (.expectedSingleEntry entries.length) mark)
  | other => throw (.at (.expectedSingleMapping other.kind) other.mark)

/-- Fill a collection. -/
def fill (id : NodeId) : Construct Unit := do
  let node ← nodeOf id
  match (coreType? node.tag).getD "", node with
  | "seq", .sequence _ items _ =>
    items.forM meet
    note id (.list items)
  | "seq", other => throw (.at (.expectedNode "sequence" other.kind) other.mark)
  | "map", .mapping .. => note id (.mapping (← meetEntries id))
  | "set", .mapping .. => note id (.set ((← meetEntries id).map Prod.fst))
  | "map", other | "set", other => throw (.at (.expectedNode "mapping" other.kind) other.mark)
  | _, .sequence _ items _ => note id (.pairs (← items.mapM meetPair))
  | _, other => throw (.at (.expectedSequence other.kind) other.mark)

/-- Fill the collections that were met, then those that were met meanwhile. -/
def fillLevels : Nat → Construct Unit
  | 0 => pure ()
  | bound + 1 => do
    let level := (← get).unfilled.reverse
    unless level.isEmpty do
      modify ({ · with unfilled := [] })
      level.forM fill
      fillLevels bound

end Construct

/-- What the nodes of a graph stand for that a node holds. -/
def NodeGraph.shapes (graph : NodeGraph) (root : NodeId) :
    Except Error (Array (Option Shape)) := do
  let start : Construction := ⟨graph, Array.replicate graph.size none, []⟩
  let steps : Construct Unit := do
    Construct.meet root
    Construct.fillLevels graph.size
  let (_, made) ← steps.run start
  pure made.shapes

end RunOnce.Yaml

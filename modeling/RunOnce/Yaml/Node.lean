import RunOnce.Yaml.Token

/-!
# Nodes

The nodes of a YAML document: scalars, sequences and mappings, each with a tag
that says what type of value it stands for. An alias makes one node part of
several others, or of itself, so the nodes form a graph: a collection holds the
numbers of its nodes.
-/

namespace RunOnce.Yaml

/-- The number of a node in its graph. -/
abbrev NodeId := Nat

/-- A node. -/
inductive Node
  | scalar (tag : String) (text : ScalarText) (mark : Mark)
  | sequence (tag : String) (items : List NodeId) (mark : Mark)
  | mapping (tag : String) (entries : List (NodeId × NodeId)) (mark : Mark)
deriving Repr

/-- The tag of a type of the YAML tag repository. -/
def coreTag (type : String) : String :=
  "tag:yaml.org,2002:" ++ type

/-- The type that a core tag names. -/
def coreType? (tag : String) : Option String :=
  let stem := coreTag ""
  if stem.toList.isPrefixOf tag.toList then
    some (String.ofList (tag.toList.drop stem.length))
  else none

namespace Node

/-- A scalar that is not written at all. -/
def unwritten (mark : Mark) : Node :=
  scalar (coreTag "null") ⟨[], true⟩ mark

/-- The kind of a node in a message. -/
def kind : Node → String
  | scalar .. => "scalar"
  | sequence .. => "sequence"
  | mapping .. => "mapping"

/-- The position at which a node starts. -/
def mark : Node → Mark
  | scalar _ _ mark => mark
  | sequence _ _ mark => mark
  | mapping _ _ mark => mark

/-- The tag of a node. -/
def tag : Node → String
  | scalar tag .. => tag
  | sequence tag .. => tag
  | mapping tag .. => tag

/-- Whether a node has the tag of a type. -/
def hasType (type : String) (node : Node) : Bool :=
  node.tag == coreTag type

/-- The entries of a mapping. -/
def entries : Node → List (NodeId × NodeId)
  | mapping _ entries _ => entries
  | _ => []

/-- A mapping with other entries. -/
def withEntries (entries : List (NodeId × NodeId)) : Node → Node
  | mapping tag _ mark => mapping tag entries mark
  | other => other

/-- A scalar with another tag. -/
def withTag (tag : String) : Node → Node
  | scalar _ text mark => scalar tag text mark
  | sequence _ items mark => sequence tag items mark
  | mapping _ entries mark => mapping tag entries mark

end Node

/-- Nodes by their numbers. -/
structure NodeGraph where
  nodes : Array Node := #[]
deriving Repr

namespace NodeGraph

/-- How many nodes there are. -/
def size (graph : NodeGraph) : Nat :=
  graph.nodes.size

/-- The node of a number. -/
def get (graph : NodeGraph) (id : NodeId) : Node :=
  graph.nodes.getD id (.unwritten ⟨0, 0, 0⟩)

/-- Change the node of a number. -/
def update (graph : NodeGraph) (id : NodeId) (change : Node → Node) : NodeGraph :=
  ⟨graph.nodes.modify id change⟩

/-- Add a node, under the number that the size of the graph is. -/
def add (graph : NodeGraph) (node : Node) : NodeGraph :=
  ⟨graph.nodes.push node⟩

end NodeGraph

end RunOnce.Yaml

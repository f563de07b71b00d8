import RunOnce.Yaml.Node

/-!
# Merging mappings

A mapping with a merge key takes over the entries of the mapping, or of each
mapping of the sequence, that stands under it. The entries that are taken over
stand before the mapping's own, and those of a sequence in reverse order, so an
entry overrides what is merged after it.

A mapping is merged once, in place: a merge key is removed before what stands
under it is merged in turn, so each merge key of a graph is followed once, and
the number of merge keys bounds how deep merging goes.
-/

namespace RunOnce.Yaml

/-- A step that changes a graph. -/
abbrev Link := StateT NodeGraph (Except Error)

/-- The entries of a mapping around its first merge key, and the node under that
key. -/
def NodeGraph.splitAtMerge? (graph : NodeGraph) :
    List (NodeId × NodeId) → Option (List (NodeId × NodeId) × NodeId × List (NodeId × NodeId))
  | [] => none
  | entry :: rest =>
    if (graph.get entry.1).hasType "merge" then some ([], entry.2, rest)
    else (graph.splitAtMerge? rest).map fun (before, under, after) =>
      (entry :: before, under, after)

/-- How many entries have a merge key. -/
def NodeGraph.mergeCount (graph : NodeGraph) : Nat :=
  graph.nodes.foldl (fun count node =>
    count + (node.entries.filter fun entry => (graph.get entry.1).hasType "merge").length) 0

namespace Link

/-- Let an equals sign, which has a type of its own, be a text where it is a
key. -/
def settleKey (id : NodeId) : Link Unit :=
  modify fun graph =>
    if (graph.get id).hasType "value" then graph.update id (·.withTag (coreTag "str")) else graph

/-- Merge what a mapping asks for that is merged itself into so many others, before whose
own entries some are merged already, and give the entries that it has then. -/
def mergeFrom : Nat → Nat → NodeId → List (NodeId × NodeId) → Link (List (NodeId × NodeId))
  | bound, depth, id, merged => do
    if chainLimit ≤ depth then
      throw .tooDeep
    let own := ((← get).get id).entries
    match (← get).splitAtMerge? own, bound with
    | some (before, under, after), bound + 1 =>
      modify fun graph => graph.update id (·.withEntries (before ++ after))
      match (← get).get under with
      | .mapping .. =>
        let taken ← mergeFrom bound (depth + 1) under []
        mergeFrom bound depth id (merged ++ taken)
      | .sequence _ items _ =>
        let taken ← items.mapM fun item => do
          match (← get).get item with
          | .mapping .. => mergeFrom bound (depth + 1) item []
          | other => throw (.at (.expectedMapping other.kind) other.mark)
        mergeFrom bound depth id (merged ++ taken.reverse.flatten)
      | other => throw (.at (.expectedMappings other.kind) other.mark)
    | _, _ =>
      own.forM fun entry => settleKey entry.1
      modify fun graph => graph.update id (·.withEntries (merged ++ own))
      return merged ++ own

/-- Merge what a mapping asks for, and give its entries. -/
def merge (id : NodeId) : Link (List (NodeId × NodeId)) := do
  mergeFrom (← get).mergeCount 0 id []

end Link

end RunOnce.Yaml

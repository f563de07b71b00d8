import RunOnce.Yaml.Node
import RunOnce.Yaml.Scalar
import RunOnce.Yaml.Token.Stream

/-!
# Composing nodes

Reads the one document of a token stream as a graph of nodes. An alias stands
for the node of its anchor, also inside that node. Every step goes past a token
or returns, so a bound on the number of steps is computed from the number of
tokens.
-/

namespace RunOnce.Yaml

/-- What is left to read, the nodes read so far, and the names in force. -/
structure Composer where
  tokens : List Token
  /-- The problem that ends the tokens. -/
  error? : Option Error := none
  /-- Tag handles and what they stand for. -/
  handles : List (String × String) := []
  /-- Anchors and their nodes, the latest first. -/
  anchors : List (String × NodeId) := []
  /-- How many collections are being read. -/
  depth : Nat := 0
  graph : NodeGraph := {}

/-- A step of composing. -/
abbrev Compose := StateT Composer (Except Error)

namespace Compose

/-- The next token. -/
def peek : Compose Token := do
  let composer ← get
  match composer.tokens, composer.error? with
  | token :: _, _ => return token
  | [], some problem => throw problem
  | [], none => return ⟨.streamEnd, ⟨0, 0, 0⟩, ⟨0, 0, 0⟩⟩

/-- The kind of the next token. -/
def peekKind : Compose TokenKind := do
  return (← peek).kind

/-- Take the next token. -/
def take : Compose Token := do
  let token ← peek
  modify fun composer => { composer with tokens := composer.tokens.drop 1 }
  return token

/-- Fail at the next token. -/
def fail {α : Type} (problem : String → Problem) : Compose α := do
  let token ← peek
  throw (.at (problem token.kind.label) token.start)

/-- Add a node to the graph. -/
def add (node : Node) : Compose NodeId := do
  let id := (← get).graph.size
  modify fun composer => { composer with graph := composer.graph.add node }
  return id

/-- Add a scalar that is not written at all. -/
def emptyScalar (mark : Mark) : Compose NodeId :=
  add (.unwritten mark)

/-- Add a node that holds others. Its place is taken before they are read. -/
def holding (mark : Mark) (read : NodeId → Compose Node) : Compose NodeId := do
  let outer := (← get).depth
  if nestingLimit ≤ outer then
    throw .tooDeep
  let id ← add (.unwritten mark)
  modify ({ · with depth := outer + 1 })
  let node ← read id
  modify fun composer =>
    { composer with depth := outer, graph := composer.graph.update id fun _ => node }
  return id

/-! ## Directives -/

/-- The handles that are known without a directive. -/
def defaultHandles : List (String × String) :=
  [("!", "!"), ("!!", coreTag "")]

/-- Read the directives of a document. -/
def directives : Nat → Bool → List (String × String) → Compose (List (String × String))
  | 0, _, handles => return handles
  | bound + 1, versioned, handles => do
    let token ← peek
    match token.kind with
    | .directive (.version major _) =>
      let _ ← take
      if versioned then
        throw (.at .repeatedVersion token.start)
      if major ≠ 1 then
        throw (.at .incompatibleVersion token.start)
      directives bound true handles
    | .directive (.tag handle stem) =>
      let _ ← take
      if handles.any (·.1 == handle) then
        throw (.at (.repeatedHandle handle) token.start)
      directives bound versioned (handles ++ [(handle, stem)])
    | .directive (.other _) =>
      let _ ← take
      directives bound versioned handles
    | _ => return handles

/-! ## Node properties -/

/-- The anchor and the tag of a node. -/
structure Properties where
  anchor : Option String := none
  tag : Option String := none
  /-- Where the first of them starts. -/
  start : Option Mark := none

/-- The full form of a tag. -/
def resolveTag (handle : Option String) (suffix : String) (mark : Mark) : Compose String := do
  match handle with
  | none => return suffix
  | some handle =>
    match (← get).handles.find? fun entry => entry.1 == handle with
    | some (_, stem) => return stem ++ suffix
    | none => throw (.at (.undefinedHandle handle) mark)

/-- Read the anchor and the tag before a node, in either order. The tag is
resolved when both are read. -/
def properties : Compose Properties := do
  let first ← peek
  match first.kind with
  | .anchor name =>
    let _ ← take
    let second ← peek
    match second.kind with
    | .tag handle suffix =>
      let _ ← take
      return ⟨some name, some (← resolveTag handle suffix second.start), some first.start⟩
    | _ => return ⟨some name, none, some first.start⟩
  | .tag handle suffix =>
    let _ ← take
    let second ← peek
    match second.kind with
    | .anchor name =>
      let _ ← take
      return ⟨some name, some (← resolveTag handle suffix first.start), some first.start⟩
    | _ => return ⟨none, some (← resolveTag handle suffix first.start), some first.start⟩
  | _ => return {}

/-- Refuse an anchor that is in use. -/
def checkAnchor (properties : Properties) (mark : Mark) : Compose Unit := do
  match properties.anchor with
  | none => pure ()
  | some name =>
    if (← get).anchors.any (·.1 == name) then
      throw (.at .repeatedAnchor mark)

/-- Let an anchor stand for a node. -/
def bindAnchor (properties : Properties) (id : NodeId) : Compose Unit := do
  match properties.anchor with
  | none => pure ()
  | some name =>
    modify fun composer => { composer with anchors := (name, id) :: composer.anchors }

/-- The tag of a collection, which has a type of its own when none is given. -/
def collectionTag (properties : Properties) (type : String) : String :=
  match properties.tag with
  | none => coreTag type
  | some tag => if tag = "!" then coreTag type else tag

/-- The tag of a scalar. A plain scalar without a tag has the type of its form;
so has one with the tag `!`. -/
def scalarTag (properties : Properties) (text : ScalarText) : String :=
  match properties.tag with
  | none => if text.isPlain then coreTag (Scalar.typeOf text.codes) else coreTag "str"
  | some tag => if tag = "!" then coreTag (Scalar.typeOf text.codes) else tag

/-- Read a collection under its anchor. -/
def collection (properties : Properties) (mark : Mark) (read : Compose Node) :
    Compose NodeId := do
  checkAnchor properties mark
  holding mark fun id => do
    bindAnchor properties id
    read

/-- A scalar under its anchor. -/
def leaf (properties : Properties) (mark : Mark) (text : ScalarText) : Compose NodeId := do
  checkAnchor properties mark
  let tag := scalarTag properties text
  let id ← add (.scalar tag text mark)
  bindAnchor properties id
  return id

/-- The node of an alias. -/
def aliased (name : String) (mark : Mark) : Compose NodeId := do
  match (← get).anchors.find? fun entry => entry.1 == name with
  | some (_, id) => return id
  | none => throw (.at (.undefinedAlias name) mark)

/-! ## Nodes -/

/-- Where a node stands, which decides the forms it may have. -/
inductive Place
  | flow
  | block
  /-- A block whose sequences need not be indented. -/
  | entry
deriving DecidableEq

/-- Whether a kind is one of several. -/
def isOneOf (kinds : List TokenKind) (kind : TokenKind) : Bool :=
  kinds.any (· == kind)

/-- A node of which only an anchor or a tag is written. -/
def unwritten (given : Properties) (mark : Mark) : Compose NodeId := do
  if given.anchor.isSome || given.tag.isSome then
    leaf given mark ⟨[], given.tag.isNone⟩
  else fail .expectedContent

mutual

/-- Read a node. -/
def node : Nat → Place → Compose NodeId
  | 0, _ => fail .expectedContent
  | bound + 1, place => do
    let first ← peek
    match first.kind with
    | .aliasOf name =>
      let _ ← take
      aliased name first.start
    | _ =>
      let given ← properties
      let next ← peek
      let mark := given.start.getD next.start
      match next.kind with
      | .blockEntry =>
        if place = .entry then
          collection given mark do
            return .sequence (collectionTag given "seq") (← looseItems bound) mark
        else unwritten given mark
      | .scalar text =>
        let _ ← take
        leaf given mark text
      | .flowSequenceStart =>
        collection given mark do
          let _ ← take
          return .sequence (collectionTag given "seq") (← flowItems bound true) mark
      | .flowMappingStart =>
        collection given mark do
          let _ ← take
          return .mapping (collectionTag given "map") (← flowEntries bound true) mark
      | .blockSequenceStart =>
        if place = .flow then unwritten given mark
        else
          collection given mark do
            let _ ← take
            return .sequence (collectionTag given "seq") (← blockItems bound) mark
      | .blockMappingStart =>
        if place = .flow then unwritten given mark
        else
          collection given mark do
            let _ ← take
            return .mapping (collectionTag given "map") (← blockEntries bound) mark
      | _ => unwritten given mark

/-- Read a node, or nothing before one of several tokens. -/
def nodeUnless : Nat → Place → List TokenKind → Mark → Compose NodeId
  | 0, _, _, mark => emptyScalar mark
  | bound + 1, place, kinds, mark => do
    if isOneOf kinds (← peekKind) then emptyScalar mark else node bound place

/-- Read the items of an indented block sequence. -/
def blockItems : Nat → Compose (List NodeId)
  | 0 => fail .expectedBlockEnd
  | bound + 1 => do
    match ← peekKind with
    | .blockEntry =>
      let dash ← take
      let item ← nodeUnless bound .block [.blockEntry, .blockEnd] dash.stop
      return item :: (← blockItems bound)
    | .blockEnd =>
      let _ ← take
      return []
    | _ => fail .expectedBlockEnd

/-- Read the items of a block sequence that is not indented. -/
def looseItems : Nat → Compose (List NodeId)
  | 0 => return []
  | bound + 1 => do
    match ← peekKind with
    | .blockEntry =>
      let dash ← take
      let item ← nodeUnless bound .block [.blockEntry, .key, .value, .blockEnd] dash.stop
      return item :: (← looseItems bound)
    | _ => return []

/-- Read the entries of a block mapping. -/
def blockEntries : Nat → Compose (List (NodeId × NodeId))
  | 0 => fail .expectedBlockEnd
  | bound + 1 => do
    let token ← peek
    match token.kind with
    | .key =>
      let _ ← take
      let key ← nodeUnless bound .entry [.key, .value, .blockEnd] token.stop
      let value ← blockValue bound
      return (key, value) :: (← blockEntries bound)
    | .blockEnd =>
      let _ ← take
      return []
    | _ => fail .expectedBlockEnd

/-- Read the value of an entry of a block mapping. -/
def blockValue : Nat → Compose NodeId
  | 0 => fail .expectedContent
  | bound + 1 => do
    let token ← peek
    match token.kind with
    | .value =>
      let _ ← take
      nodeUnless bound .entry [.key, .value, .blockEnd] token.stop
    | _ => emptyScalar token.start

/-- Read the items of a flow sequence. An item may be a single entry of a
mapping. -/
def flowItems : Nat → Bool → Compose (List NodeId)
  | 0, _ => fail .expectedInSequence
  | bound + 1, isFirst => do
    if (← peekKind) == .flowSequenceEnd then
      let _ ← take
      return []
    unless isFirst do
      if (← peekKind) == .flowEntry then
        let _ ← take
      else fail .expectedInSequence
    let token ← peek
    match token.kind with
    | .flowSequenceEnd =>
      let _ ← take
      return []
    | .key =>
      let _ ← take
      let item ← holding token.start fun _ => do
        let key ← nodeUnless bound .flow [.value, .flowEntry, .flowSequenceEnd] token.stop
        let value ← flowValue bound [.flowEntry, .flowSequenceEnd]
        return .mapping (coreTag "map") [(key, value)] token.start
      return item :: (← flowItems bound false)
    | _ =>
      let item ← node bound .flow
      return item :: (← flowItems bound false)

/-- Read the value of an entry of a flow mapping. -/
def flowValue : Nat → List TokenKind → Compose NodeId
  | 0, _ => fail .expectedContent
  | bound + 1, kinds => do
    let token ← peek
    match token.kind with
    | .value =>
      let _ ← take
      nodeUnless bound .flow kinds token.stop
    | _ => emptyScalar token.start

/-- Read the entries of a flow mapping. A key without a colon has no value. -/
def flowEntries : Nat → Bool → Compose (List (NodeId × NodeId))
  | 0, _ => fail .expectedInMapping
  | bound + 1, isFirst => do
    if (← peekKind) == .flowMappingEnd then
      let _ ← take
      return []
    unless isFirst do
      if (← peekKind) == .flowEntry then
        let _ ← take
      else fail .expectedInMapping
    let token ← peek
    match token.kind with
    | .flowMappingEnd =>
      let _ ← take
      return []
    | .key =>
      let _ ← take
      let key ← nodeUnless bound .flow [.value, .flowEntry, .flowMappingEnd] token.stop
      let value ← flowValue bound [.flowEntry, .flowMappingEnd]
      return (key, value) :: (← flowEntries bound false)
    | _ =>
      let key ← node bound .flow
      let value ← emptyScalar (← peek).start
      return (key, value) :: (← flowEntries bound false)

end

/-! ## Documents -/

/-- Go past the ends of documents. -/
def skipDocumentEnds : Nat → Compose Unit
  | 0 => pure ()
  | bound + 1 => do
    if (← peekKind) == .documentEnd then
      let _ ← take
      skipDocumentEnds bound

/-- Read the start of a document that is marked as such; `none` at the end of
the stream. The position is that of its first token. -/
def documentStart (bound : Nat) : Compose (Option Mark) := do
  skipDocumentEnds bound
  let first ← peek
  if first.kind == .streamEnd then return none
  let given ← directives bound false []
  unless (← peekKind) == .documentStart do
    fail .expectedDocumentStart
  let _ ← take
  let others := defaultHandles.filter fun entry => !given.any (·.1 == entry.1)
  modify ({ · with handles := given ++ others })
  return some first.start

/-- Whether a token kind starts a document explicitly, or ends the stream. -/
def startsDocument : TokenKind → Bool
  | .directive _ => true
  | .documentStart => true
  | .streamEnd => true
  | _ => false

/-- Read the content of a document that is marked as such. -/
def documentContent (bound : Nat) : Compose NodeId := do
  let token ← peek
  if startsDocument token.kind || token.kind == .documentEnd then emptyScalar token.start
  else node bound .block

/-- Read the only document of a stream. -/
def document (bound : Nat) : Compose (Option NodeId) := do
  let _ ← take
  let content? ←
    if startsDocument (← peekKind) then do
      match ← documentStart bound with
      | none => pure none
      | some _ => do pure (some (← documentContent bound))
    else do
      modify ({ · with handles := defaultHandles })
      pure (some (← node bound .block))
  match content? with
  | none => return none
  | some content =>
    if (← peekKind) == .documentEnd then
      let _ ← take
    match ← documentStart bound with
    | none => return some content
    | some start => throw (.at .anotherDocument start)

end Compose

/-- The nodes of the only document of a text, and the node that holds all
others; `none` when there is no document. -/
def NodeGraph.ofTokens (stream : TokenStream) : Except Error (Option (NodeGraph × NodeId)) := do
  let composer : Composer := { tokens := stream.tokens, error? := stream.error? }
  let (root?, composer) ← (Compose.document (4 * stream.tokens.length + 8)).run composer
  pure (root?.map fun root => (composer.graph, root))

end RunOnce.Yaml

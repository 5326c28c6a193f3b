import FineTuning.Assistant.Properties
import FineTuning.Assistant.Recovery
import FineTuning.Config

/-!
# Carrying out tool calls

`execute` carries out one request on a graph under edit. Every request first resolves what it
refers to, without any change; then there is at most one edit. Requests see the graph as earlier
ones have left it, and `NEW_NODE_ID` stands for the node that was created last.

The engine works on any `GraphEditor`. The store is one, and so is an append-only store, to which
nodes can be added but which refuses every other edit.
-/

namespace FineTuning

/-- A graph under edit. An edit that is refused answers `false`. -/
class GraphEditor (σ : Type) where
  graph : σ → Graph
  addNode : σ → NodeKind → Position → String × σ
  updateNode : σ → String → NodePatch → Bool × σ
  deleteNode : σ → String → Bool × σ
  connect : σ → (source target sourceHandle targetHandle : String) → Bool × σ
  disconnect : σ → EdgeReference → Bool × σ

instance : GraphEditor Store where
  graph := Store.graph
  addNode := Store.addNode
  updateNode := Store.updateNode
  deleteNode := Store.deleteNode
  connect := Store.connect
  disconnect := Store.disconnect

/-- A store to which nodes can be added while all else is refused. -/
structure AppendOnlyStore where
  store : Store
deriving DecidableEq

instance : GraphEditor AppendOnlyStore where
  graph s := s.store.graph
  addNode s kind position :=
    let (id, store) := s.store.addNode kind position
    (id, ⟨store⟩)
  updateNode s _ _ := (false, s)
  deleteNode s _ := (false, s)
  connect s _ _ _ _ := (false, s)
  disconnect s _ := (false, s)

/-- What a request has done. -/
inductive ToolOutcome where
  | nodeAdded (nodeId : String) (kind : NodeKind)
  | nodeUpdated (nodeId : String)
  | nodeDeleted (nodeId : String)
  | connected (edgeId : String) (source : String) (target : String)
  /-- The nodes were connected already, which is as good. -/
  | alreadyConnected (source : String) (target : String)
  | disconnected (reference : EdgeReference)
deriving DecidableEq

/-- The text of the outcome. -/
def ToolOutcome.message : ToolOutcome → String
  | .nodeAdded nodeId kind => s!"Added {kind.name} node '{nodeId}'"
  | .nodeUpdated nodeId => s!"Updated node '{nodeId}'"
  | .nodeDeleted nodeId => s!"Deleted node '{nodeId}'"
  | .connected _ source target => s!"Connected '{source}' to '{target}'"
  | .alreadyConnected source target => s!"'{source}' and '{target}' are already connected"
  | .disconnected reference => s!"Removed connection {reference.text}"

/-- The outcome of a request, or why it failed. -/
abbrev ToolResult := Except ToolError ToolOutcome

/-- What assistants may do and refer to. -/
structure Engine where
  catalog : Catalog
  maxNodes : Nat
  maxEdges : Nat
  recovery : Option Recovery

namespace Engine

/-- The engine with the default limits. -/
def withCatalog (catalog : Catalog) : Engine where
  catalog := catalog
  maxNodes := Config.default.maxNodes
  maxEdges := Config.default.maxEdges
  recovery := some Recovery.latestOfKind

/-- The engine with the limits of a configuration, which may also turn off recovery. -/
def withConfig (engine : Engine) (config : Config) : Engine :=
  { engine with
    maxNodes := config.maxNodes
    maxEdges := config.maxEdges
    recovery := if config.endpointRecovery then engine.recovery else none }

/-- The engine of a configuration. -/
def ofConfig (catalog : Catalog) (config : Config) : Engine :=
  (withCatalog catalog).withConfig config

end Engine

/-- A graph under edit in a conversation. -/
structure Conversation (σ : Type) where
  editor : σ
  /-- The nodes created so far, in order. -/
  created : List String
deriving DecidableEq

/-- The name for the node that was created last. -/
def newNodeId : String := "NEW_NODE_ID"

/-- The id that a reference to a node stands for. -/
def resolveReference (created : List String) (nodeId : String) : Except ToolError String :=
  let trimmed := Text.trim nodeId
  if trimmed = newNodeId then
    match created.getLast? with
    | some id => .ok id
    | none => .error .unresolvedNewNodeId
  else .ok trimmed

/-- The id that a reference to a node of the graph stands for. -/
def resolveNode (g : Graph) (created : List String) (nodeId : String) : Except ToolError String := do
  let id ← resolveReference created nodeId
  if g.hasNode id then return id else throw (.nodeNotFound id)

/-- The kind with a name. -/
def resolveKind (kind : String) : Except ToolError NodeKind :=
  match NodeKind.parse? kind with
  | some kind => .ok kind
  | none => .error (.unknownNodeKind kind)

namespace Engine

/-- A node to stand in for one that does not exist, of the kind that the handle implies. -/
def recover? (engine : Engine) (g : Graph) (created : List String) (handle : String) :
    Option String := do
  let recovery ← engine.recovery
  let kind ← impliedKind? handle
  recovery g created kind

/-- The id that an end of a new connection stands for. -/
def resolveEnd (engine : Engine) (g : Graph) (created : List String) (nodeId handle : String) :
    Except ToolError String := do
  let id ← resolveReference created nodeId
  if g.hasNode id then return id
  match engine.recover? g created handle with
  | some recovered => return recovered
  | none => throw (.nodeNotFound id)

/-- The node that an update is about, and the patch for it. -/
def resolveUpdate (engine : Engine) (g : Graph) (created : List String) (request : UpdateRequest) :
    Except ToolError (String × NodePatch) := do
  let id ← resolveNode g created request.nodeId
  let requested ← resolveKind request.kind
  match g.node? id with
  | none => throw (.nodeNotFound id)
  | some node =>
    if node.kind ≠ requested then throw (.kindMismatch id node.kind requested)
    if node.isLocked then throw (.nodeLocked id)
    let patch ← NodePatch.ofProperties requested request.properties engine.catalog
    return (id, patch)

/-- The kind of a new node, if it can be added. -/
def resolveAddition (engine : Engine) (g : Graph) (request : AddNodeRequest) :
    Except ToolError NodeKind := do
  let kind ← resolveKind request.kind
  if !request.position.isFinite then throw .infinitePosition
  if engine.maxNodes ≤ g.nodes.length then throw (.nodeLimitReached engine.maxNodes)
  return kind

/-- The error for a connection between nodes that do not fit. -/
def rejected (source target : String) (request : ConnectRequest) : ToolError :=
  .connectionRejected source target request.sourceHandle request.targetHandle

/-- The ends of a new connection, if it is well typed. -/
def resolveConnection (engine : Engine) (g : Graph) (created : List String)
    (request : ConnectRequest) : Except ToolError (String × String) := do
  if engine.maxEdges ≤ g.edges.length then throw (.edgeLimitReached engine.maxEdges)
  let source ← engine.resolveEnd g created request.source request.sourceHandle
  let target ← engine.resolveEnd g created request.target request.targetHandle
  if g.isCompatible source target request.sourceHandle request.targetHandle then
    return (source, target)
  else throw (rejected source target request)

/-- The edge to delete, with the references to its ends resolved. -/
def resolveDisconnection (created : List String) (request : DisconnectRequest) :
    Except ToolError EdgeReference :=
  match request.reference? with
  | some (.byEnds source target) => do
    let source ← resolveReference created source
    let target ← resolveReference created target
    return .byEnds source target
  | some (.byId id) => .ok (.byId id)
  | none => .error .ambiguousConnection

variable {σ : Type} [GraphEditor σ]

/-- Sets properties of a node. -/
def updateNode (engine : Engine) (c : Conversation σ) (request : UpdateRequest) :
    ToolResult × Conversation σ :=
  match engine.resolveUpdate (GraphEditor.graph c.editor) c.created request with
  | .error error => (.error error, c)
  | .ok (id, patch) =>
    let (applied, editor) := GraphEditor.updateNode c.editor id patch
    (if applied then .ok (.nodeUpdated id) else .error (.updateRejected id), { c with editor })

/-- Adds a node. -/
def addNode (engine : Engine) (c : Conversation σ) (request : AddNodeRequest) :
    ToolResult × Conversation σ :=
  match engine.resolveAddition (GraphEditor.graph c.editor) request with
  | .error error => (.error error, c)
  | .ok kind =>
    let (id, editor) := GraphEditor.addNode c.editor kind request.position
    (.ok (.nodeAdded id kind), ⟨editor, c.created ++ [id]⟩)

/-- Deletes a node. -/
def deleteNode (c : Conversation σ) (request : DeleteNodeRequest) : ToolResult × Conversation σ :=
  match resolveNode (GraphEditor.graph c.editor) c.created request.nodeId with
  | .error error => (.error error, c)
  | .ok id =>
    let (deleted, editor) := GraphEditor.deleteNode c.editor id
    (if deleted then .ok (.nodeDeleted id) else .error (.deleteFailed id), { c with editor })

/-- The id of the last edge from the one node to the other. -/
def lastEdgeId (g : Graph) (source target : String) : String :=
  ((g.edges.reverse.find? (·.connects source target)).map (·.id)).getD ""

/-- Connects two nodes. -/
def addConnection (engine : Engine) (c : Conversation σ) (request : ConnectRequest) :
    ToolResult × Conversation σ :=
  let g := GraphEditor.graph c.editor
  match engine.resolveConnection g c.created request with
  | .error error => (.error error, c)
  | .ok (source, target) =>
    if g.isConnected source target then (.ok (.alreadyConnected source target), c)
    else
      let (connected, editor) :=
        GraphEditor.connect c.editor source target request.sourceHandle request.targetHandle
      let result : ToolResult :=
        if connected then
          .ok (.connected (lastEdgeId (GraphEditor.graph editor) source target) source target)
        else .error (rejected source target request)
      (result, { c with editor })

/-- Deletes a connection. -/
def deleteConnection (c : Conversation σ) (request : DisconnectRequest) :
    ToolResult × Conversation σ :=
  match resolveDisconnection c.created request with
  | .error error => (.error error, c)
  | .ok reference =>
    let (deleted, editor) := GraphEditor.disconnect c.editor reference
    let result : ToolResult :=
      if deleted then .ok (.disconnected reference) else .error (.connectionNotFound reference)
    (result, { c with editor })

/-- Carries out a request. -/
def execute (engine : Engine) (c : Conversation σ) : ToolRequest → ToolResult × Conversation σ
  | .updateNodeProperties request => engine.updateNode c request
  | .addNode request => engine.addNode c request
  | .deleteNode request => deleteNode c request
  | .addConnection request => engine.addConnection c request
  | .deleteConnection request => deleteConnection c request

/-- Carries out the request of a call. -/
def executeCall (engine : Engine) (c : Conversation σ) (call : ToolCall) :
    ToolResult × Conversation σ :=
  match ToolRequest.ofCall call with
  | .ok request => engine.execute c request
  | .error error => (.error error, c)

end Engine

end FineTuning

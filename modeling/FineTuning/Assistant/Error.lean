import FineTuning.Assistant.Request
import FineTuning.Catalog.Resolve

/-!
# Errors of tool calls

What an assistant is told when a call fails. One failed call does not keep the others of its turn
from being carried out.
-/

namespace FineTuning

/-- The properties whose values are checked. -/
inductive CheckedProperty where
  | epochs
  | batchSize
  | quantization
  | downloadQuant
  | status
deriving DecidableEq

namespace CheckedProperty

def name : CheckedProperty → String
  | .epochs => "epochs"
  | .batchSize => "batchSize"
  | .quantization => "quantization"
  | .downloadQuant => "downloadQuant"
  | .status => "status"

/-- What is wrong with a value that is not allowed. -/
def complaint : CheckedProperty → String
  | .epochs =>
    s!"is not a whole number between {TrainingData.minEpochs.toNat.repr} and " ++
      TrainingData.maxEpochs.toNat.repr
  | .batchSize =>
    s!"is not supported, batch size is fixed at {TrainingData.defaultBatchSize}"
  | .quantization | .downloadQuant =>
    "is not one of " ++ ", ".intercalate (Quantization.all.map (·.name))
  | .status => "is not one of " ++ ", ".intercalate (DatasetStatus.all.map (·.name))

end CheckedProperty

/-- Why a call fails. -/
inductive ToolError where
  | unknownTool (name : String)
  | invalidArguments (tool : Tool) (cause : Json.DecodeError)
  | infinitePosition
  | unresolvedNewNodeId
  | nodeNotFound (nodeId : String)
  | unknownNodeKind (kind : String)
  | kindMismatch (nodeId : String) (actual : NodeKind) (requested : NodeKind)
  | emptyWriteSet (kind : NodeKind) (keys : List String)
  /-- A property with a value that is not allowed; `shown` is how messages show the value. -/
  | invalidProperty (property : CheckedProperty) (shown : String)
  | nodeLocked (nodeId : String)
  | updateRejected (nodeId : String)
  | nodeLimitReached (limit : Nat)
  | edgeLimitReached (limit : Nat)
  | connectionRejected (source : String) (target : String) (sourceHandle : String)
      (targetHandle : String)
  | connectionNotFound (reference : EdgeReference)
  | ambiguousConnection
  | deleteFailed (nodeId : String)
  | catalog (cause : ResolveError)
deriving DecidableEq

/-- The text of the error. -/
def ToolError.message : ToolError → String
  | .unknownTool name => s!"Unknown tool '{name}'"
  | .invalidArguments tool cause => s!"Invalid arguments for '{tool.name}': {cause.message}"
  | .infinitePosition =>
    s!"Invalid arguments for '{Tool.addNode.name}': " ++
      "position.x and position.y must be finite numbers"
  | .unresolvedNewNodeId =>
    "NEW_NODE_ID was used, but no node has been created in this conversation yet"
  | .nodeNotFound nodeId => s!"Node '{nodeId}' does not exist in the graph"
  | .unknownNodeKind kind => s!"Unknown node kind '{kind}', expected dataset, model or training"
  | .kindMismatch nodeId actual requested =>
    s!"Node '{nodeId}' is a {actual.name} node, not a {requested.name} node"
  | .emptyWriteSet kind keys =>
    s!"No writable {kind.name} properties in [" ++ ", ".intercalate keys ++ "]"
  | .invalidProperty property shown =>
    s!"Invalid value for '{property.name}': {shown} {property.complaint}"
  | .nodeLocked nodeId =>
    s!"Model node '{nodeId}' was used in a completed training run and is read-only"
  | .updateRejected nodeId => s!"Update of node '{nodeId}' was rejected by the graph"
  | .nodeLimitReached limit =>
    s!"Node limit reached: the graph already has {limit.repr} nodes"
  | .edgeLimitReached limit =>
    s!"Connection limit reached: the graph already has {limit.repr} connections"
  | .connectionRejected source target sourceHandle targetHandle =>
    s!"Cannot connect '{source}' ({sourceHandle}) to '{target}' ({targetHandle}): " ++
      "incompatible endpoints"
  | .connectionNotFound reference => s!"Connection {reference.text} not found"
  | .ambiguousConnection =>
    "deleteConnection requires either a connectionId or both sourceId and targetId"
  | .deleteFailed nodeId => s!"Failed to delete node '{nodeId}'"
  | .catalog cause => cause.message

/-- The request that a call makes. -/
def ToolRequest.ofCall (call : ToolCall) : Except ToolError ToolRequest :=
  match Tool.ofName? call.toolName with
  | some tool => (tool.decodeArgs (.ofJson call.args)).mapError (.invalidArguments tool)
  | none => .error (.unknownTool call.toolName)

end FineTuning

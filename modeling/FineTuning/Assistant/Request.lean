import FineTuning.Graph.Codec
import FineTuning.Graph.Store

/-!
# Requests of an assistant

An assistant edits a graph by calling tools by name, with arguments that are any JSON value.
`ToolRequest.ofCall` looks up the tool and decodes the arguments. Most arguments have more than one
name, because assistants do not always remember the right one.
-/

namespace FineTuning

open Json

/-- A call of a tool, as the assistant made it. -/
structure ToolCall where
  toolName : String
  args : Json

def ToolCall.decode : Decoder ToolCall :=
  (Fields.cons (Field.required "toolName" Decode.string) <|
    .cons (Field.withDefault "args" Decode.json .null) .nil).record
      "RawToolInvocation" .fewer ToolCall.mk

/-- The tools. -/
inductive Tool where
  | updateNodeProperties
  | addNode
  | deleteNode
  | addConnection
  | deleteConnection
deriving DecidableEq

namespace Tool

def all : List Tool :=
  [.updateNodeProperties, .addNode, .deleteNode, .addConnection, .deleteConnection]

def name : Tool → String
  | .updateNodeProperties => "updateNodeProperties"
  | .addNode => "addNode"
  | .deleteNode => "deleteNode"
  | .addConnection => "addConnection"
  | .deleteConnection => "deleteConnection"

/-- The tool with exactly this name. -/
def ofName? (text : String) : Option Tool :=
  all.find? (·.name == text)

end Tool

/-- Asks to set properties of a node, which is said to be of a kind. -/
structure UpdateRequest where
  nodeId : String
  kind : String
  properties : List (String × Json)

/-- Asks for a new node of a kind. -/
structure AddNodeRequest where
  kind : String
  position : Position
deriving DecidableEq

/-- Asks to delete a node. -/
structure DeleteNodeRequest where
  nodeId : String
deriving DecidableEq

/-- Asks for an edge between the handles of two nodes. -/
structure ConnectRequest where
  source : String
  target : String
  sourceHandle : String
  targetHandle : String
deriving DecidableEq

/-- Asks to delete an edge, given by its id or by its ends. -/
structure DisconnectRequest where
  connection : Option String
  source : Option String
  target : Option String
deriving DecidableEq

/-- The names under which the kind of a node may be given. -/
def kindField : Json.Field String :=
  (Field.required "kind" Decode.string).orNamed ["nodeType", "type"]

def UpdateRequest.decode : Decoder UpdateRequest :=
  (Fields.cons (Field.required "nodeId" Decode.string) <|
    .cons kindField <|
    .cons (Field.withDefault "properties" Decode.fields []) .nil).record
      "UpdateNodePropertiesArgs" .fewer UpdateRequest.mk

def AddNodeRequest.decode : Decoder AddNodeRequest :=
  (Fields.cons kindField <|
    .cons (Field.required "position" Position.decode) .nil).record
      "AddNodeArgs" .fewer AddNodeRequest.mk

def DeleteNodeRequest.decode : Decoder DeleteNodeRequest :=
  (Fields.cons (Field.required "nodeId" Decode.string) .nil).record
    "DeleteNodeArgs" .fewer DeleteNodeRequest.mk

def ConnectRequest.decode : Decoder ConnectRequest :=
  (Fields.cons ((Field.required "sourceId" Decode.string).orNamed ["source", "sourceNodeId"]) <|
    .cons ((Field.required "targetId" Decode.string).orNamed ["target", "targetNodeId"]) <|
    .cons (Field.required "sourceHandle" Decode.string) <|
    .cons (Field.required "targetHandle" Decode.string) .nil).record
      "AddConnectionArgs" .fewer ConnectRequest.mk

def DisconnectRequest.decode : Decoder DisconnectRequest :=
  (Fields.cons ((Field.optional "connectionId" Decode.string).orNamed ["edgeId"]) <|
    .cons ((Field.optional "sourceId" Decode.string).orNamed ["source"]) <|
    .cons ((Field.optional "targetId" Decode.string).orNamed ["target"]) .nil).record
      "DeleteConnectionArgs" .fewer DisconnectRequest.mk

/-- The edge that is meant: by its id alone, or by both of its ends alone. Blank texts do not
count as given. -/
def DisconnectRequest.reference? (request : DisconnectRequest) : Option EdgeReference :=
  match request.connection.bind Text.nonBlank?, request.source.bind Text.nonBlank?,
      request.target.bind Text.nonBlank? with
  | some id, none, none => some (.byId id)
  | none, some source, some target => some (.byEnds source target)
  | _, _, _ => none

/-- A call with its arguments decoded. -/
inductive ToolRequest where
  | updateNodeProperties (request : UpdateRequest)
  | addNode (request : AddNodeRequest)
  | deleteNode (request : DeleteNodeRequest)
  | addConnection (request : ConnectRequest)
  | deleteConnection (request : DisconnectRequest)

/-- Decodes the arguments of a tool. -/
def Tool.decodeArgs (tool : Tool) : Decoder ToolRequest := fun args =>
  match tool with
  | .updateNodeProperties => (UpdateRequest.decode args).map .updateNodeProperties
  | .addNode => (AddNodeRequest.decode args).map .addNode
  | .deleteNode => (DeleteNodeRequest.decode args).map .deleteNode
  | .addConnection => (ConnectRequest.decode args).map .addConnection
  | .deleteConnection => (DisconnectRequest.decode args).map .deleteConnection

/-- The tool of a request. -/
def ToolRequest.tool : ToolRequest → Tool
  | .updateNodeProperties _ => .updateNodeProperties
  | .addNode _ => .addNode
  | .deleteNode _ => .deleteNode
  | .addConnection _ => .addConnection
  | .deleteConnection _ => .deleteConnection

end FineTuning

import FineTuning.Graph.Codec

/-!
# Canvas exports

A canvas saves graphs in a form of its own: a node has its kind in a type name such as `model` or
`modelNode`, and its data in an object without the kind. Ids and handles of edges may be missing.
`CanvasExport.toGraph` completes what is missing and numbers the nodes in their order.
-/

namespace FineTuning

open Json

/-- A node of a canvas export. -/
structure CanvasNode where
  id : String
  type : String
  position : Position
  data : Json

/-- An edge of a canvas export. -/
structure CanvasEdge where
  id : Option String
  source : String
  target : String
  sourceHandle : Option String
  targetHandle : Option String
deriving DecidableEq

/-- A graph as the canvas saves it. -/
structure CanvasExport where
  nodes : List CanvasNode
  edges : List CanvasEdge

def CanvasNode.decode : Decoder CanvasNode :=
  (Fields.cons (Field.required "id" Decode.string) <|
    .cons (Field.required "type" Decode.string) <|
    .cons (Field.withDefault "position" Position.decode .origin) <|
    .cons (Field.withDefault "data" Decode.json .null) .nil).record
      "CanvasNode" .fewer CanvasNode.mk

def CanvasEdge.decode : Decoder CanvasEdge :=
  (Fields.cons (Field.optional "id" Decode.string) <|
    .cons (Field.required "source" Decode.string) <|
    .cons (Field.required "target" Decode.string) <|
    .cons (Field.optional "sourceHandle" Decode.string) <|
    .cons (Field.optional "targetHandle" Decode.string) .nil).record
      "CanvasEdge" .fewer CanvasEdge.mk

/-- The text without an ending, if it has it. -/
def dropEnding? (ending text : String) : Option String :=
  if ending.toList.isSuffixOf text.toList then
    some (String.ofList (text.toList.take (text.toList.length - ending.toList.length)))
  else none

namespace CanvasNode

/-- The kind that a type name stands for; it may end in `Node` or `-node`. -/
def kindOfType? (type : String) : Option NodeKind :=
  let trimmed := Text.trim type
  let base := ((dropEnding? "Node" trimmed).or (dropEnding? "-node" trimmed)).getD trimmed
  NodeKind.parse? base

/-- The fields of the data, with the kind and at least a default title. -/
def completeFields (kind : NodeKind) (fields : List (String × Json)) : List (String × Json) :=
  let tagged := Json.insertField "kind" (.string kind.name) fields
  match Json.field? "title" tagged with
  | some _ => tagged
  | none => Json.insertField "title" (.string (NodeData.initial kind).title) tagged

/-- The data of a node of a kind; without any, it is that of a new node. -/
def dataOfKind (nodeId : String) (kind : NodeKind) : Json → Except GraphError NodeData
  | .null => .ok (.initial kind)
  | .object fields =>
    (NodeData.decode (.ofJson (.object (completeFields kind fields)))).mapError
      (.invalidNodeData nodeId)
  | data => .error (.noNodeDataObject nodeId data)

/-- The node, with its place in the order of creation. -/
def toNode (node : CanvasNode) (createdSeq : Nat) : Except GraphError Node :=
  match kindOfType? node.type with
  | none => .error (.unknownNodeType node.id node.type)
  | some kind => do
    let data ← dataOfKind node.id kind node.data
    return ⟨node.id, node.position, createdSeq, data⟩

/-- The nodes of a list, numbered in its order. -/
def toNodes (createdSeq : Nat) : List CanvasNode → Except GraphError (List Node)
  | [] => .ok []
  | node :: rest => do
    let first ← node.toNode createdSeq
    let others ← toNodes (createdSeq + 1) rest
    return first :: others

end CanvasNode

/-- The edge between nodes. A missing handle is that of the edges that leave nodes of the kind of
the source; it stays empty if there are none. -/
def CanvasEdge.toEdge (nodes : Graph) (edge : CanvasEdge) : Edge :=
  let handles := ((nodes.kindOf? edge.source).bind EdgeKind.leaving?).map EdgeKind.handles
  { id := edge.id.getD s!"edge-{edge.source}-{edge.target}"
    source := edge.source
    target := edge.target
    sourceHandle := edge.sourceHandle.getD ((handles.map (·.1.name)).getD "")
    targetHandle := edge.targetHandle.getD ((handles.map (·.2.name)).getD "") }

namespace CanvasExport

def decode : Decoder CanvasExport :=
  (Fields.cons (Field.required "nodes" (Decode.list CanvasNode.decode)) <|
    .cons (Field.withDefault "edges" (Decode.list CanvasEdge.decode) []) .nil).record
      "CanvasExport" .fewer CanvasExport.mk

/-- The export of a text. -/
def ofText (text : String) : Except GraphError CanvasExport :=
  (Json.decodeText decode text).mapError .unreadable

/-- The graph of the export; it must have integrity. -/
def toGraph (canvas : CanvasExport) : Except GraphError Graph := do
  let nodes ← CanvasNode.toNodes 1 canvas.nodes
  let edges := canvas.edges.map (CanvasEdge.toEdge ⟨nodes, []⟩)
  (⟨nodes, edges⟩ : Graph).checked

end CanvasExport

end FineTuning

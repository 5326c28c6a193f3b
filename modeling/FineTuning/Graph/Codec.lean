import FineTuning.Graph.Basic
import FineTuning.Json.Printer
import FineTuning.Json.Record

/-!
# Graphs as JSON

A graph is written as its lists of nodes and edges. The data of a node begins with its kind, by
which the rest is read. Optional texts that are absent are left out; everything else is written.

The data of a node is read as a whole before its fields are looked at, so all of it has to be
readable, unknown fields included.
-/

namespace FineTuning

open Json

namespace Position

def toJson (p : Position) : Json :=
  .object [("x", .ofDouble p.x), ("y", .ofDouble p.y)]

def decode : Decoder Position :=
  (Fields.cons (Field.required "x" Decode.double) <|
    .cons (Field.required "y" Decode.double) .nil).record "Position" .fewer Position.mk

end Position

namespace SelectedModel

def toJson (m : SelectedModel) : Json :=
  .object [
    ("id", .string m.id),
    ("displayName", .string m.displayName),
    ("provider", .string m.provider),
    ("parameterCount", .ofDouble m.parameterCount)]

def decode : Decoder SelectedModel :=
  (Fields.cons (Field.required "id" Decode.string) <|
    .cons (Field.withDefault "displayName" Decode.string "") <|
    .cons (Field.withDefault "provider" Decode.string "") <|
    .cons (Field.withDefault "parameterCount" Decode.double .zero) .nil).record
      "SelectedModel" .counted SelectedModel.mk

end SelectedModel

namespace NodeData

/-- The fields that every kind of data has, after its kind. -/
def headFields (kind : NodeKind) (title description : String) : List (String × Json) :=
  [("kind", .string kind.name), ("title", .string title), ("description", .string description)]

end NodeData

namespace DatasetData

def jsonFields (d : DatasetData) : List (String × Json) :=
  NodeData.headFields .dataset d.title d.description ++
    Json.fieldIfSome "contentUrl" (d.contentUrl.map .string) ++
    Json.fieldIfSome "storageId" (d.storageId.map .string) ++
    [("status", .string d.status.name)] ++
    Json.fieldIfSome "activeTab" (d.activeTab.map .string)

def decodeStatus : Decoder DatasetStatus :=
  Decode.variant true (DatasetStatus.all.map fun status => (status.name, status))

def decode : Decoder DatasetData :=
  (Fields.cons (Field.required "title" Decode.string) <|
    .cons (Field.withDefault "description" Decode.string "") <|
    .cons (Field.optional "contentUrl" Decode.string) <|
    .cons (Field.optional "storageId" Decode.string) <|
    .cons (Field.withDefault "status" decodeStatus .idle) <|
    .cons (Field.optional "activeTab" Decode.string) .nil).record
      "DatasetData" .counted DatasetData.mk

end DatasetData

namespace ModelData

def jsonFields (d : ModelData) : List (String × Json) :=
  NodeData.headFields .model d.title d.description ++
    Json.fieldIfSome "selectedModel" (d.selectedModel.map (·.toJson)) ++
    [("isLocked", .bool d.isLocked)]

def decode : Decoder ModelData :=
  (Fields.cons (Field.required "title" Decode.string) <|
    .cons (Field.withDefault "description" Decode.string "") <|
    .cons (Field.optional "selectedModel" SelectedModel.decode) <|
    .cons (Field.withDefault "isLocked" Decode.bool false) .nil).record
      "ModelData" .counted ModelData.mk

end ModelData

namespace TrainingData

def jsonFields (d : TrainingData) : List (String × Json) :=
  NodeData.headFields .training d.title d.description ++ [
    ("epochs", .ofNat d.epochs.toNat),
    ("batchSize", .string d.batchSize),
    ("quantization", .string d.quantization),
    ("downloadQuant", .string d.downloadQuant)]

def decode : Decoder TrainingData :=
  (Fields.cons (Field.required "title" Decode.string) <|
    .cons (Field.withDefault "description" Decode.string "") <|
    .cons (Field.withDefault "epochs" Decode.uint32 minEpochs) <|
    .cons (Field.withDefault "batchSize" Decode.string defaultBatchSize) <|
    .cons (Field.withDefault "quantization" Decode.string defaultQuantization) <|
    .cons (Field.withDefault "downloadQuant" Decode.string defaultDownloadQuant) .nil).record
      "TrainingData" .counted TrainingData.mk

end TrainingData

namespace NodeData

def jsonFields : NodeData → List (String × Json)
  | .dataset d => d.jsonFields
  | .model d => d.jsonFields
  | .training d => d.jsonFields

def toJson (data : NodeData) : Json :=
  .object data.jsonFields

/-- The kind that a tag names. -/
def decodeKind : Decoder NodeKind
  | .string s => Decode.name (NodeKind.all.map fun kind => (kind.name, kind)) s
  | r => .error (r.mistyped "variant identifier")

/-- The data of a kind, from what is left beside the tag. -/
def decodeOfKind : NodeKind → Decoder NodeData
  | .dataset, r => (DatasetData.decode r).map .dataset
  | .model, r => (ModelData.decode r).map .model
  | .training, r => (TrainingData.decode r).map .training

/-- Takes the tag out of the fields; `found` is one that stood before them. -/
def takeKind (found : Option NodeKind) :
    Reading.Fields → Except DecodeError (Option NodeKind × Reading.Fields)
  | [] => .ok (found, [])
  | (key, value) :: rest =>
    if key = some "kind" then
      match found with
      | some _ => .error (.duplicateField "kind")
      | none => do
        let kind ← decodeKind value
        takeKind (some kind) rest
    else do
      let (kind, others) ← takeKind found rest
      return (kind, (key, value) :: others)

/-- Node data tagged by its kind: one of the fields, or the first item of an array. -/
def decode : Decoder NodeData := fun r =>
  match r with
  | .object fields true => do
    if !r.isReadable then throw .malformed
    match ← takeKind none fields with
    | (some kind, others) => decodeOfKind kind (.object others true)
    | (none, _) => throw (.missingField "kind")
  | .array (tag :: items) true => do
    if !r.isReadable then throw .malformed
    let kind ← decodeKind tag
    decodeOfKind kind (.array items true)
  | .array [] true => .error (.missingField "kind")
  | .object _ false | .array _ false => .error .malformed
  | _ => .error (r.mistyped "internally tagged enum NodeData")

end NodeData

namespace Node

def toJson (n : Node) : Json :=
  .object [
    ("id", .string n.id),
    ("position", n.position.toJson),
    ("createdSeq", .ofNat n.createdSeq),
    ("data", n.data.toJson)]

def decode : Decoder Node :=
  (Fields.cons (Field.required "id" Decode.string) <|
    .cons (Field.withDefault "position" Position.decode .origin) <|
    .cons (Field.withDefault "createdSeq" (Decode.nat64 "u64") 0) <|
    .cons (Field.required "data" NodeData.decode) .nil).record "Node" .fewer Node.mk

end Node

namespace Edge

def toJson (e : Edge) : Json :=
  .object [
    ("id", .string e.id),
    ("sourceNodeId", .string e.source),
    ("targetNodeId", .string e.target),
    ("sourceHandle", .string e.sourceHandle),
    ("targetHandle", .string e.targetHandle)]

def decode : Decoder Edge :=
  (Fields.cons (Field.required "id" Decode.string) <|
    .cons (Field.required "sourceNodeId" Decode.string) <|
    .cons (Field.required "targetNodeId" Decode.string) <|
    .cons (Field.required "sourceHandle" Decode.string) <|
    .cons (Field.required "targetHandle" Decode.string) .nil).record "Edge" .fewer Edge.mk

end Edge

/-- Why a text gives no graph. -/
inductive GraphError where
  /-- The text is not JSON, or not that of a graph. -/
  | unreadable (cause : DecodeError)
  | noIntegrity (cause : IntegrityError)
  /-- A node of a canvas export has a type that is no kind of node. -/
  | unknownNodeType (nodeId : String) (type : String)
  /-- A node of a canvas export has data that is not that of its kind. -/
  | invalidNodeData (nodeId : String) (cause : DecodeError)
  /-- A node of a canvas export has data that is not even an object. -/
  | noNodeDataObject (nodeId : String) (data : Json)

/-- The text of the error. -/
def GraphError.message : GraphError → String
  | .unreadable cause => s!"Failed to parse graph JSON: {cause.message}"
  | .noIntegrity cause => cause.message
  | .unknownNodeType nodeId type =>
    s!"Invalid canvas data: node '{nodeId}' has unknown type '{type}'"
  | .invalidNodeData nodeId cause =>
    s!"Invalid canvas data: node '{nodeId}' has invalid data: {cause.message}"
  | .noNodeDataObject nodeId data =>
    s!"Invalid canvas data: node '{nodeId}' data must be an object, found {data.compact}"

namespace Graph

def toJson (g : Graph) : Json :=
  .object [
    ("nodes", .array (g.nodes.map (·.toJson))),
    ("edges", .array (g.edges.map (·.toJson)))]

def decode : Decoder Graph :=
  (Fields.cons (Field.withDefault "nodes" (Decode.list Node.decode) []) <|
    .cons (Field.withDefault "edges" (Decode.list Edge.decode) []) .nil).record
      "Graph" .fewer Graph.mk

/-- The graph of a text, whether or not it has integrity. -/
def ofTextUnchecked (text : String) : Except GraphError Graph :=
  (Json.decodeText decode text).mapError .unreadable

/-- Accepts a graph that has integrity. -/
def checked (g : Graph) : Except GraphError Graph :=
  match g.checkIntegrity with
  | .ok () => .ok g
  | .error fault => .error (.noIntegrity fault)

/-- The graph of a text; it must have integrity. -/
def ofText (text : String) : Except GraphError Graph := do
  (← ofTextUnchecked text).checked

/-- The graph as text, with a line for each field. -/
def toText (g : Graph) : String :=
  g.toJson.pretty

end Graph

end FineTuning

import FineTuning.Job.Description
import FineTuning.Json.Printer
import FineTuning.Json.Record

/-!
# Job descriptions as JSON

The nodes are an object with their ids as keys, in the order of the list. When a description is
read, each node must stand under its own id; of nodes under one key the last counts, in the place
of the first.
-/

namespace FineTuning

open Json

/-- Decodes the name of a quantization. -/
def Quantization.decode : Decoder Quantization :=
  Decode.variant false (Quantization.all.map fun q => (q.name, q))

/-- Decodes the name of a type of node. -/
def WireNodeType.decode : Decoder WireNodeType :=
  Decode.variant false (WireNodeType.all.map fun type => (type.name, type))

namespace WireProps

def toJson (p : WireProps) : Json :=
  .object <|
    fieldIfSome "uris" (p.uris.map fun uris => .array (uris.map .string)) ++
    fieldIfSome "model_id" (p.modelId.map .string) ++
    fieldIfSome "epochs" (p.epochs.map fun n => .ofNat n.toNat) ++
    fieldIfSome "batch_size" (p.batchSize.map fun n => .ofNat n.toNat) ++
    fieldIfSome "train_quant" (p.trainQuant.map fun q => .string q.name) ++
    fieldIfSome "download_quant" (p.downloadQuant.map fun q => .string q.name)

def decode : Decoder WireProps :=
  (Fields.cons (Field.nullable "uris" (Decode.list Decode.string)) <|
    .cons (Field.nullable "model_id" Decode.string) <|
    .cons (Field.nullable "epochs" Decode.uint32) <|
    .cons (Field.nullable "batch_size" Decode.uint32) <|
    .cons (Field.nullable "train_quant" Quantization.decode) <|
    .cons (Field.nullable "download_quant" Quantization.decode) .nil).record
      "WireProps" .fewer WireProps.mk

end WireProps

namespace WireNode

def toJson (n : WireNode) : Json :=
  .object [("id", .string n.id), ("type", .string n.type.name), ("props", n.props.toJson)]

def decode : Decoder WireNode :=
  (Fields.cons (Field.required "id" Decode.string) <|
    .cons (Field.required "type" WireNodeType.decode) <|
    .cons (Field.required "props" WireProps.decode) .nil).record "WireNode" .fewer WireNode.mk

end WireNode

namespace WireNodes

def toJson (nodes : WireNodes) : Json :=
  .object (nodes.entries.map fun n => (n.id, n.toJson))

/-- Decodes the nodes of an object and inserts them, in order. -/
def decodeInto (nodes : WireNodes) : Reading.Fields → Except DecodeError WireNodes
  | [] => .ok nodes
  | (none, _) :: _ => .error .malformed
  | (some key, value) :: rest => do
    let node ← WireNode.decode value
    if key = node.id then decodeInto (nodes.insert node) rest
    else throw (.keyMismatch key node.id)

def decode : Decoder WireNodes
  | .object fields closed => do
    let nodes ← decodeInto .empty fields
    if closed then return nodes else throw .malformed
  | r => .error (r.mistyped "a map of symbolic ids to schema nodes")

end WireNodes

namespace PlannedEdge

def toJson (e : PlannedEdge) : Json :=
  .object [("from", .string e.source), ("to", .string e.target)]

def decode : Decoder PlannedEdge :=
  (Fields.cons (Field.required "from" Decode.string) <|
    .cons (Field.required "to" Decode.string) .nil).record "WireEdge" .fewer PlannedEdge.mk

end PlannedEdge

namespace NodeSchema

def toJson (s : NodeSchema) : Json :=
  .object [
    ("schema_version", .ofNat s.version.toNat),
    ("nodes", s.nodes.toJson),
    ("edges", .array (s.edges.map (·.toJson))),
    ("meta", .object [("created_by", .string s.createdBy)])]

/-- Decodes the object that names the creator. -/
def decodeMeta : Decoder String :=
  (Fields.cons (Field.required "created_by" Decode.string) .nil).record "WireMeta" .fewer
    fun createdBy => createdBy

def decode : Decoder NodeSchema :=
  (Fields.cons (Field.required "schema_version" Decode.uint32) <|
    .cons (Field.required "nodes" WireNodes.decode) <|
    .cons (Field.required "edges" (Decode.list PlannedEdge.decode)) <|
    .cons (Field.required "meta" decodeMeta) .nil).record "NodeSchema" .fewer NodeSchema.mk

end NodeSchema

namespace JobDescription

def toJson (d : JobDescription) : Json :=
  .object [
    ("training_id", .string d.trainingId),
    ("project_name", .string d.projectName),
    ("node_schema", d.schema.toJson)]

def decode : Decoder JobDescription :=
  (Fields.cons (Field.required "training_id" Decode.string) <|
    .cons (Field.required "project_name" Decode.string) <|
    .cons (Field.required "node_schema" NodeSchema.decode) .nil).record
      "JobDescription" .fewer JobDescription.mk

/-- The description on one line. -/
def toText (d : JobDescription) : String :=
  d.toJson.compact

/-- The description with a line for each field. -/
def toPrettyText (d : JobDescription) : String :=
  d.toJson.pretty

/-- The description of a text. -/
def ofText (text : String) : Except DecodeError JobDescription :=
  decodeText decode text

end JobDescription

end FineTuning

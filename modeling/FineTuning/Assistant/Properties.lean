import FineTuning.Assistant.Error
import FineTuning.Text.Numeral

/-!
# Properties that assistants may write

`NodePatch.ofProperties` makes a patch of the properties of an update: of a training node the
epochs, batch size and quantizations, of a model node the model, and of a dataset its status and
active tab. Other properties are passed over, but one at least has to be there.

Numbers may be given as texts, and models by any name that the catalog understands.
-/

namespace FineTuning

open Json

/-- A number, or a text that should be one. -/
inductive Numeric where
  | number (value : Json.Number)
  | text (value : String)
deriving DecidableEq

namespace Numeric

def decode : Decoder Numeric
  | .number n => .ok (.number n)
  | .string s => .ok (.text s)
  | .unreadable | .broken => .error .malformed
  | _ => .error (.noForm "Numeric")

/-- The whole number that is meant, in 64 bits with a sign. -/
def toInt64? : Numeric → Option Int64
  | .number n => n.toInt64?
  | .text s => Text.Numeral.int64? (Text.trim s)

/-- The value as messages show it. -/
def shown : Numeric → String
  | .number n => String.ofList n.text
  | .text s => s!"'{s}'"

end Numeric

/-- The properties of a training node. -/
structure TrainingProperties where
  epochs : Option Numeric
  batchSize : Option Numeric
  quantization : Option String
  downloadQuant : Option String

/-- The properties of a model node. -/
structure ModelProperties where
  model : Option String

/-- The properties of a dataset. -/
structure DatasetProperties where
  status : Option String
  activeTab : Option String

def TrainingProperties.decode : Decoder TrainingProperties :=
  (Fields.cons (Field.optional "epochs" Numeric.decode) <|
    .cons ((Field.optional "batchSize" Numeric.decode).orNamed ["batch_size"]) <|
    .cons ((Field.optional "quantization" Decode.string).orNamed ["trainQuant", "train_quant"]) <|
    .cons ((Field.optional "downloadQuant" Decode.string).orNamed ["download_quant"]) .nil).record
      "TrainingProperties" .fewer TrainingProperties.mk

def ModelProperties.decode : Decoder ModelProperties :=
  (Fields.cons ((Field.optional "selectedModelId" Decode.string).orNamed
    ["modelId", "model", "modelName", "selectedModel"]) .nil).record
      "ModelProperties" .fewer ModelProperties.mk

def DatasetProperties.decode : Decoder DatasetProperties :=
  (Fields.cons (Field.optional "status" Decode.string) <|
    .cons (Field.optional "activeTab" Decode.string) .nil).record
      "DatasetProperties" .fewer DatasetProperties.mk

/-- Checks a value if it is given. -/
def checkOptional {α β : Type} (check : α → Except ToolError β) :
    Option α → Except ToolError (Option β)
  | some a => (check a).map some
  | none => .ok none

/-- The number of epochs, if it is allowed. -/
def checkEpochs (value : Numeric) : Except ToolError UInt32 :=
  match value.toInt64? with
  | some i =>
    if TrainingData.minEpochs.toNat ≤ i.toInt ∧ i.toInt ≤ TrainingData.maxEpochs.toNat then
      .ok (UInt32.ofNat i.toInt.toNat)
    else .error (.invalidProperty .epochs value.shown)
  | none => .error (.invalidProperty .epochs value.shown)

/-- The batch size, if it is the one that is allowed. -/
def checkBatchSize (value : Numeric) : Except ToolError String :=
  match value.toInt64? with
  | some i =>
    if i.toInt.repr = TrainingData.defaultBatchSize then .ok i.toInt.repr
    else .error (.invalidProperty .batchSize value.shown)
  | none => .error (.invalidProperty .batchSize value.shown)

/-- The exact name of a quantization. -/
def checkQuantization (property : CheckedProperty) (value : String) : Except ToolError String :=
  match Quantization.parse? value with
  | some quantization => .ok quantization.name
  | none => .error (.invalidProperty property s!"'{value}'")

/-- The status with a name. -/
def checkStatus (value : String) : Except ToolError DatasetStatus :=
  match DatasetStatus.parse? value with
  | some status => .ok status
  | none => .error (.invalidProperty .status s!"'{value}'")

/-- The model with a name. -/
def checkModel (catalog : Catalog) (name : String) : Except ToolError SelectedModel :=
  match catalog.resolve name with
  | .ok entry => .ok entry.toSelectedModel
  | .error cause => .error (.catalog cause)

/-- Decodes properties. -/
def decodeProperties {α : Type} (decode : Decoder α) (properties : List (String × Json)) :
    Except ToolError α :=
  (decode (.ofJson (.object properties))).mapError (.invalidArguments .updateNodeProperties)

def TrainingPatch.ofProperties (properties : List (String × Json)) :
    Except ToolError TrainingPatch := do
  let given ← decodeProperties TrainingProperties.decode properties
  let epochs ← checkOptional checkEpochs given.epochs
  let batchSize ← checkOptional checkBatchSize given.batchSize
  let quantization ← checkOptional (checkQuantization .quantization) given.quantization
  let downloadQuant ← checkOptional (checkQuantization .downloadQuant) given.downloadQuant
  return { epochs, batchSize, quantization, downloadQuant }

def ModelPatch.ofProperties (properties : List (String × Json)) (catalog : Catalog) :
    Except ToolError ModelPatch := do
  let given ← decodeProperties ModelProperties.decode properties
  let selectedModel ← checkOptional (checkModel catalog) given.model
  return { selectedModel }

def DatasetPatch.ofProperties (properties : List (String × Json)) :
    Except ToolError DatasetPatch := do
  let given ← decodeProperties DatasetProperties.decode properties
  let status ← checkOptional checkStatus given.status
  return { status, activeTab := given.activeTab }

namespace NodePatch

/-- The patch of the properties, which may set nothing. -/
def ofAnyProperties (kind : NodeKind) (properties : List (String × Json)) (catalog : Catalog) :
    Except ToolError NodePatch :=
  match kind with
  | .training => (TrainingPatch.ofProperties properties).map .training
  | .model => (ModelPatch.ofProperties properties catalog).map .model
  | .dataset => (DatasetPatch.ofProperties properties).map .dataset

/-- The patch that sets the properties on a node of a kind. -/
def ofProperties (kind : NodeKind) (properties : List (String × Json)) (catalog : Catalog) :
    Except ToolError NodePatch := do
  let patch ← ofAnyProperties kind properties catalog
  if patch.isEmpty then throw (.emptyWriteSet kind (properties.map (·.1)))
  return patch

end NodePatch

end FineTuning

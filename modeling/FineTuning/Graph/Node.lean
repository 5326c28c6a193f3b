import FineTuning.Double.Basic
import FineTuning.Text.AsciiCase
import FineTuning.Text.Blank

/-!
# Nodes of a pipeline graph

A pipeline has datasets, base models and training runs as its nodes. Each kind of node carries
data of its own. The settings of a training node are kept as they were entered; whether they make
sense is decided when a job is compiled.
-/

namespace FineTuning

/-- The kinds of nodes. -/
inductive NodeKind where
  | dataset
  | model
  | training
deriving DecidableEq, Inhabited

namespace NodeKind

def all : List NodeKind := [.dataset, .model, .training]

def name : NodeKind → String
  | .dataset => "dataset"
  | .model => "model"
  | .training => "training"

/-- The kind with a name, in any case and with blanks around it. -/
def parse? (text : String) : Option NodeKind :=
  all.find? fun kind => Text.sameIgnoringAsciiCase kind.name (Text.trim text)

end NodeKind

/-- Coordinates on the canvas. -/
structure Position where
  x : Double
  y : Double
deriving DecidableEq

namespace Position

def origin : Position := ⟨.zero, .zero⟩

def isFinite (p : Position) : Bool :=
  p.x.isFinite && p.y.isFinite

end Position

/-- The number formats to which the weights of a model can be reduced. -/
inductive Quantization where
  | int4
  | int8
deriving DecidableEq

namespace Quantization

def all : List Quantization := [.int4, .int8]

def name : Quantization → String
  | .int4 => "int4"
  | .int8 => "int8"

/-- The format with exactly this name. -/
def ofName? (text : String) : Option Quantization :=
  all.find? (·.name == text)

/-- The format with a name in any case and with blanks around it. -/
def parse? (text : String) : Option Quantization :=
  ofName? (Text.lowerAscii (Text.trim text))

end Quantization

/-- How far the upload of a dataset has come. -/
inductive DatasetStatus where
  | idle
  | uploading
  | processing
  | ready
  | error
deriving DecidableEq

namespace DatasetStatus

def all : List DatasetStatus := [.idle, .uploading, .processing, .ready, .error]

def name : DatasetStatus → String
  | .idle => "idle"
  | .uploading => "uploading"
  | .processing => "processing"
  | .ready => "ready"
  | .error => "error"

/-- The status with a name in any case and with blanks around it. -/
def parse? (text : String) : Option DatasetStatus :=
  all.find? fun status => Text.sameIgnoringAsciiCase status.name (Text.trim text)

end DatasetStatus

/-- Where the content of a dataset is found. -/
inductive ContentReference where
  | url (url : String)
  | storage (id : String)
deriving DecidableEq

/-- The data of a dataset node. -/
structure DatasetData where
  title : String
  description : String
  contentUrl : Option String
  storageId : Option String
  status : DatasetStatus
  activeTab : Option String
deriving DecidableEq

namespace DatasetData

/-- The data of a new node. -/
def initial : DatasetData where
  title := "Dataset"
  description := "Upload a file with training examples"
  contentUrl := none
  storageId := none
  status := .idle
  activeTab := none

/-- The trimmed URL, or else the trimmed storage id; blank ones do not count. -/
def contentReference? (data : DatasetData) : Option ContentReference :=
  match data.contentUrl.bind Text.nonBlank? with
  | some url => some (.url url)
  | none => (data.storageId.bind Text.nonBlank?).map .storage

end DatasetData

/-- The base model chosen on a model node. -/
structure SelectedModel where
  id : String
  displayName : String
  provider : String
  /-- In billions. -/
  parameterCount : Double
deriving DecidableEq

/-- The data of a model node. -/
structure ModelData where
  title : String
  description : String
  selectedModel : Option SelectedModel
  /-- Whether the model took part in a training run that is complete; it cannot be changed then. -/
  isLocked : Bool
deriving DecidableEq

/-- The data of a new node. -/
def ModelData.initial : ModelData where
  title := "Base Model"
  description := "Choose the model to fine-tune"
  selectedModel := none
  isLocked := false

/-- The data of a training node. -/
structure TrainingData where
  title : String
  description : String
  epochs : UInt32
  batchSize : String
  quantization : String
  downloadQuant : String
deriving DecidableEq

namespace TrainingData

def minEpochs : UInt32 := 1

def maxEpochs : UInt32 := 5

/-- The only batch size that assistants may set. -/
def defaultBatchSize : String := "4"

def defaultQuantization : String := Quantization.int4.name

def defaultDownloadQuant : String := Quantization.int8.name

/-- The data of a new node. -/
def initial : TrainingData where
  title := "Training"
  description := "Configure the fine-tuning run"
  epochs := minEpochs
  batchSize := defaultBatchSize
  quantization := defaultQuantization
  downloadQuant := defaultDownloadQuant

end TrainingData

/-- The data of a node, by its kind. -/
inductive NodeData where
  | dataset (data : DatasetData)
  | model (data : ModelData)
  | training (data : TrainingData)
deriving DecidableEq

namespace NodeData

/-- The data of a new node. -/
def initial : NodeKind → NodeData
  | .dataset => .dataset .initial
  | .model => .model .initial
  | .training => .training .initial

def kind : NodeData → NodeKind
  | .dataset _ => .dataset
  | .model _ => .model
  | .training _ => .training

def title : NodeData → String
  | .dataset data => data.title
  | .model data => data.title
  | .training data => data.title

end NodeData

/-- A node on the canvas. -/
structure Node where
  id : String
  position : Position
  /-- Where the node stands in the order of creation: a newer node has a greater number. -/
  createdSeq : Nat
  data : NodeData
deriving DecidableEq

namespace Node

def kind (node : Node) : NodeKind :=
  node.data.kind

/-- Whether the node is a model that can no longer be changed. -/
def isLocked (node : Node) : Bool :=
  match node.data with
  | .model data => data.isLocked
  | _ => false

end Node

end FineTuning

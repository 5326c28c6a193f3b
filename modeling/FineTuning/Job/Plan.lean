import FineTuning.Job.Error
import FineTuning.Text.Numeral

/-!
# The plan of a job

A plan holds the part of a graph that matters for training, under symbols of its own: the datasets
are `d1`, `d2`, .. in the order of the graph, the model is `b1` and the training node `t1`.
`Plan.ofReport` makes it from a graph and the report of its validation.

Datasets without content are left out with a warning, and do not count in the numbering. The
edges of the plan are those between its nodes, in the order of the graph.
-/

namespace FineTuning

/-- A dataset of a plan. -/
structure PlannedDataset where
  symbol : String
  nodeId : String
  uri : String
deriving DecidableEq

/-- The model of a plan. -/
structure PlannedModel where
  symbol : String
  nodeId : String
  modelId : String
deriving DecidableEq

/-- The training node of a plan. -/
structure PlannedTraining where
  symbol : String
  nodeId : String
  epochs : UInt32
  /-- A numeral, which becomes a number in the job description. -/
  batchSize : String
  trainQuant : Quantization
  downloadQuant : Quantization
deriving DecidableEq

/-- An edge between symbols. -/
structure PlannedEdge where
  source : String
  target : String
deriving DecidableEq

/-- The part of a graph that matters for training. -/
structure Plan where
  datasets : List PlannedDataset
  model : PlannedModel
  training : PlannedTraining
  edges : List PlannedEdge
deriving DecidableEq

namespace Plan

def modelSymbol : String := "b1"

def trainingSymbol : String := "t1"

/-- The symbol of the dataset with so many others before it. -/
def datasetSymbol (index : Nat) : String :=
  s!"d{(index + 1).repr}"

/-- The nodes of the plan and their symbols. -/
def symbols (datasets : List PlannedDataset) (model : PlannedModel) (training : PlannedTraining) :
    List (String × String) :=
  datasets.map (fun d => (d.nodeId, d.symbol)) ++
    [(model.nodeId, model.symbol), (training.nodeId, training.symbol)]

/-- The symbol of a node of the graph, if it belongs to the plan. -/
def symbolOf? (plan : Plan) (nodeId : String) : Option String :=
  ((symbols plan.datasets plan.model plan.training).find? (·.1 == nodeId)).map (·.2)

/-- The node with an id of the report. -/
def requireNode (g : Graph) (nodeId : String) : Except CompileError Node :=
  match g.node? nodeId with
  | some node => .ok node
  | none => .error (.nodeMissing nodeId)

/-- What becomes of a dataset of the report. -/
inductive DatasetFinding where
  | usable (nodeId : String) (uri : String)
  | withoutContent (nodeId : String)
  | faulty (error : CompileError)
deriving DecidableEq

namespace DatasetFinding

/-- The node and the URI of a dataset with content. -/
def usable? : DatasetFinding → Option (String × String)
  | .usable nodeId uri => some (nodeId, uri)
  | _ => none

/-- The warning about a dataset without content. -/
def warning? : DatasetFinding → Option CompileError
  | .withoutContent nodeId => some (.datasetMissingReference nodeId)
  | _ => none

/-- The error about a node that is no dataset. -/
def error? : DatasetFinding → Option CompileError
  | .faulty error => some error
  | _ => none

end DatasetFinding

/-- The URI of some content; a storage id is put behind the prefix. -/
def uriOf (storagePrefix : String) : ContentReference → String
  | .url url => url
  | .storage id => storagePrefix ++ id

/-- Examines a dataset of the report. -/
def findDataset (g : Graph) (storagePrefix nodeId : String) : DatasetFinding :=
  match requireNode g nodeId with
  | .error error => .faulty error
  | .ok node =>
    match node.data with
    | .dataset data =>
      match data.contentReference? with
      | some reference => .usable nodeId (uriOf storagePrefix reference)
      | none => .withoutContent nodeId
    | _ => .faulty (.topology (.nonDatasetConnectedToModel nodeId))

/-- Gives symbols to datasets in their order; `index` datasets come before them. -/
def numberDatasets (index : Nat) : List (String × String) → List PlannedDataset
  | [] => []
  | (nodeId, uri) :: rest =>
    ⟨datasetSymbol index, nodeId, uri⟩ :: numberDatasets (index + 1) rest

/-- The model of the plan. -/
def planModel (g : Graph) (nodeId : String) : Except CompileError PlannedModel := do
  let node ← requireNode g nodeId
  match node.data with
  | .model data =>
    match data.selectedModel.bind fun model => Text.nonBlank? model.id with
    | some modelId => return ⟨modelSymbol, node.id, modelId⟩
    | none => throw (.modelNotSelected node.id)
  | _ => throw (.topology (.trainingConnectedToNonModel node.id))

/-- Complains about epochs out of range. -/
def epochsFault? (nodeId : String) (data : TrainingData) : Option CompileError :=
  if TrainingData.minEpochs ≤ data.epochs ∧ data.epochs ≤ TrainingData.maxEpochs then none
  else some (.invalidEpochs nodeId data.epochs)

/-- The batch size as a number; blanks around it do not matter. -/
def batchSizeOf? (batchSize : String) : Option UInt32 :=
  Text.Numeral.uint32? (Text.trim batchSize)

/-- Complains about a batch size that is no number. -/
def batchSizeFault? (nodeId batchSize : String) : Option CompileError :=
  match batchSizeOf? batchSize with
  | some _ => none
  | none => some (.invalidBatchSize nodeId batchSize)

/-- Complains about an unknown quantization. -/
def quantizationFault? (nodeId field value : String) : Option CompileError :=
  match Quantization.ofName? value with
  | some _ => none
  | none => some (.invalidQuantization nodeId field value)

/-- Everything that is wrong with the settings of a training node. -/
def trainingFaults (nodeId : String) (data : TrainingData) : List CompileError :=
  (epochsFault? nodeId data).toList ++
    (batchSizeFault? nodeId data.batchSize).toList ++
    (quantizationFault? nodeId "quantization" data.quantization).toList ++
    (quantizationFault? nodeId "downloadQuant" data.downloadQuant).toList

/-- The training node of the plan. -/
def planTraining (g : Graph) (nodeId : String) : Except (List CompileError) PlannedTraining :=
  match requireNode g nodeId with
  | .error error => .error [error]
  | .ok node =>
    match node.data with
    | .training data =>
      match trainingFaults node.id data, Quantization.ofName? data.quantization,
          Quantization.ofName? data.downloadQuant with
      | [], some trainQuant, some downloadQuant =>
        .ok ⟨trainingSymbol, node.id, data.epochs, Text.trim data.batchSize, trainQuant,
          downloadQuant⟩
      | faults, _, _ => .error faults
    | _ => .error [.nodeMissing node.id]

/-- The symbol of the last of the nodes with an id. -/
def lastSymbol? (symbols : List (String × String)) (nodeId : String) : Option String :=
  (symbols.reverse.find? (·.1 == nodeId)).map (·.2)

/-- The edge between the symbols of its ends, if both have one. -/
def planEdge? (symbols : List (String × String)) (edge : Edge) : Option PlannedEdge := do
  let source ← lastSymbol? symbols edge.source
  let target ← lastSymbol? symbols edge.target
  return ⟨source, target⟩

/-- The errors of a result. -/
def errorsOf {α : Type} : Except (List CompileError) α → List CompileError
  | .ok _ => []
  | .error errors => errors

/-- The plan of a graph with a valid report, and warnings about the datasets that are left out. All
errors are given at once, with the warnings after them. -/
def ofReport (g : Graph) (report : TopologyReport) (storagePrefix : String) :
    Except CompileFailure (Plan × List CompileError) :=
  if !report.isValid then .error ⟨report.errors.map .topology⟩
  else
    let findings := report.datasets.map (findDataset g storagePrefix)
    let datasets := numberDatasets 0 (findings.filterMap (·.usable?))
    let warnings := findings.filterMap (·.warning?)
    let noDatasets := if datasets.isEmpty then [CompileError.noValidDatasets] else []
    let model := (planModel g (report.model.getD "")).mapError fun error => [error]
    let training := planTraining g (report.training.getD "")
    let errors := findings.filterMap (·.error?) ++ noDatasets ++ errorsOf model ++
      errorsOf training
    match errors, model, training with
    | [], .ok model, .ok training =>
      let edges := g.edges.filterMap (planEdge? (symbols datasets model training))
      .ok (⟨datasets, model, training, edges⟩, warnings)
    | _, _, _ => .error ⟨errors ++ warnings⟩

end Plan

end FineTuning

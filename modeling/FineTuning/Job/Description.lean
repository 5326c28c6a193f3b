import FineTuning.Job.Context
import FineTuning.Job.Plan
import FineTuning.Job.WireNodes

/-!
# Job descriptions

The description of a job that the training service reads: a schema of nodes under their symbols,
and edges between them. `JobDescription.ofPlan` puts a plan and its context into this form and
checks that every edge has both of its ends.
-/

namespace FineTuning

/-- The nodes and edges of a job description. -/
structure NodeSchema where
  version : UInt32
  nodes : WireNodes
  edges : List PlannedEdge
  createdBy : String
deriving DecidableEq

/-- The description of a job for the training service. -/
structure JobDescription where
  trainingId : String
  projectName : String
  schema : NodeSchema
deriving DecidableEq

namespace NodeSchema

/-- The version of the form that descriptions have. -/
def currentVersion : UInt32 := 1

/-- One error for each edge with an end that is no node. -/
def danglingEdges (schema : NodeSchema) : List CompileError :=
  (schema.edges.filter fun edge =>
    !(schema.nodes.contains edge.source && schema.nodes.contains edge.target)).map fun edge =>
      .danglingEdge edge.source edge.target

end NodeSchema

namespace Plan

/-- The node of a dataset. -/
def datasetNode (d : PlannedDataset) : WireNode :=
  ⟨d.symbol, .dataset, { uris := some [d.uri] }⟩

/-- The node of the model. -/
def modelNode (m : PlannedModel) : WireNode :=
  ⟨m.symbol, .baseModel, { modelId := some m.modelId }⟩

/-- The node of the training, with its batch size as a number. -/
def trainingNode (t : PlannedTraining) (batchSize : UInt32) : WireNode :=
  ⟨t.symbol, .train, {
    epochs := some t.epochs
    batchSize := some batchSize
    trainQuant := some t.trainQuant
    downloadQuant := some t.downloadQuant }⟩

/-- All nodes of the plan: the datasets, the model and the training node. -/
def wireNodes (plan : Plan) (batchSize : UInt32) : List WireNode :=
  plan.datasets.map datasetNode ++ [modelNode plan.model, trainingNode plan.training batchSize]

end Plan

namespace JobDescription

/-- The errors of edges without one of their ends, if there are any. -/
def checkEdges (description : JobDescription) : Except CompileFailure Unit :=
  match description.schema.danglingEdges with
  | [] => .ok ()
  | errors => .error ⟨errors⟩

/-- The description of a plan, before its edges are checked. -/
def assemble (plan : Plan) (context : JobContext) (batchSize : UInt32) : JobDescription where
  trainingId := context.trainingId
  projectName := context.projectName
  schema := {
    version := NodeSchema.currentVersion
    nodes := .ofList (plan.wireNodes batchSize)
    edges := plan.edges
    createdBy := context.createdBy }

/-- The description of a plan in a context. -/
def ofPlan (plan : Plan) (context : JobContext) : Except CompileFailure JobDescription :=
  let faults := context.blankFields ++
    (Plan.batchSizeFault? plan.training.nodeId plan.training.batchSize).toList
  match faults, Plan.batchSizeOf? plan.training.batchSize with
  | [], some batchSize => do
    let description := assemble plan context batchSize
    description.checkEdges
    return description
  | _, _ => .error ⟨faults⟩

end JobDescription

end FineTuning

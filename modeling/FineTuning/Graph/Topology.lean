import FineTuning.Graph.Basic

/-!
# The training path of a graph

A graph describes a job when it has one path from datasets through a model to a training node.
`Graph.trainingPath` follows it backwards from the training node and stops at the first fault:

1. there is exactly one training node;
2. exactly one edge ends at its input;
3. that edge begins at a model;
4. at least one edge ends at the input of the model;
5. all of these begin at datasets.
-/

namespace FineTuning

/-- A rule of the training path that a graph breaks. -/
inductive TopologyError where
  | noTrainingNode
  | multipleTrainingNodes (count : Nat)
  | trainingNodeUnconnected (trainingId : String)
  | trainingNodeOverConnected (trainingId : String) (count : Nat)
  | trainingConnectedToNonModel (nodeId : String)
  | modelHasNoDatasets (modelId : String)
  | nonDatasetConnectedToModel (nodeId : String)
deriving DecidableEq

/-- The text of the error. -/
def TopologyError.message : TopologyError → String
  | .noTrainingNode => "no training node"
  | .multipleTrainingNodes count => s!"multiple training nodes (found {count.repr})"
  | .trainingNodeUnconnected trainingId =>
    s!"training node unconnected: '{trainingId}' has no incoming model connection"
  | .trainingNodeOverConnected trainingId count =>
    s!"training node over-connected: '{trainingId}' has {count.repr} incoming connections"
  | .trainingConnectedToNonModel nodeId =>
    s!"training node connected to non-model: '{nodeId}' is not a model node"
  | .modelHasNoDatasets modelId =>
    s!"model node has no datasets: '{modelId}' has no incoming dataset connection"
  | .nonDatasetConnectedToModel nodeId =>
    s!"non-dataset connected to model: '{nodeId}' is not a dataset node"

/-- The nodes of a job: one training node, one model, and its datasets in the order of the
graph. -/
structure TrainingPath where
  training : Node
  model : Node
  datasets : List Node
deriving DecidableEq

namespace Graph

/-- The only training node. -/
def onlyTraining (g : Graph) : Except (List TopologyError) Node :=
  match g.nodesOfKind .training with
  | [] => .error [.noTrainingNode]
  | [node] => .ok node
  | nodes => .error [.multipleTrainingNodes nodes.length]

/-- The only edge that ends at the input of the training node. -/
def onlyModelEdge (g : Graph) (trainingId : String) : Except (List TopologyError) Edge :=
  match g.incoming trainingId .trainingInput with
  | [] => .error [.trainingNodeUnconnected trainingId]
  | [edge] => .ok edge
  | edges => .error [.trainingNodeOverConnected trainingId edges.length]

/-- The model where an edge begins. -/
def modelAt (g : Graph) (nodeId : String) : Except (List TopologyError) Node :=
  match (g.node? nodeId).filter (·.kind == .model) with
  | some node => .ok node
  | none => .error [.trainingConnectedToNonModel nodeId]

/-- The nodes that feed a model. Each one that is not a dataset is reported once. -/
def datasetsOf (g : Graph) (modelId : String) : Except (List TopologyError) (List Node) :=
  let sources := (g.incoming modelId .modelInput).map (·.source)
  if sources.isEmpty then .error [.modelHasNoDatasets modelId]
  else
    let others := (sources.filter (g.kindOf? · != some .dataset)).eraseDups
    if others.isEmpty then .ok (g.nodes.filter (sources.contains ·.id))
    else .error (others.map .nonDatasetConnectedToModel)

/-- The training path, or the rules that it breaks. -/
def trainingPath (g : Graph) : Except (List TopologyError) TrainingPath := do
  let training ← g.onlyTraining
  let edge ← g.onlyModelEdge training.id
  let model ← g.modelAt edge.source
  let datasets ← g.datasetsOf model.id
  return ⟨training, model, datasets⟩

end Graph

/-- The outcome of validation: the ids of the nodes on the path, or what is wrong. -/
structure TopologyReport where
  isValid : Bool
  errors : List TopologyError
  training : Option String
  model : Option String
  datasets : List String
deriving DecidableEq

namespace TopologyReport

/-- The report of a graph without a path. -/
def invalid (errors : List TopologyError) : TopologyReport :=
  ⟨false, errors, none, none, []⟩

/-- The report of a path. -/
def valid (path : TrainingPath) : TopologyReport :=
  ⟨true, [], some path.training.id, some path.model.id, path.datasets.map (·.id)⟩

/-- The texts of the errors. -/
def messages (report : TopologyReport) : List String :=
  report.errors.map (·.message)

end TopologyReport

/-- Validates a graph. -/
def Graph.topology (g : Graph) : TopologyReport :=
  match g.trainingPath with
  | .ok path => .valid path
  | .error errors => .invalid errors

end FineTuning

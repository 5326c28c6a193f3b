import FineTuning.Graph.Node

/-!
# Edges of a pipeline graph

An edge leads from a handle of one node to a handle of another. Two kinds of edges make sense:
from the output of a dataset to the input of a model, and from the output of a model to the input
of a training node. The handles of an edge are texts, because a file may hold any.
-/

namespace FineTuning

/-- The places on nodes where edges begin and end. -/
inductive Handle where
  | datasetOutput
  | modelInput
  | modelOutput
  | trainingInput
deriving DecidableEq

namespace Handle

def all : List Handle := [.datasetOutput, .modelInput, .modelOutput, .trainingInput]

def name : Handle → String
  | .datasetOutput => "dataset-output"
  | .modelInput => "model-input"
  | .modelOutput => "model-output"
  | .trainingInput => "training-input"

/-- The handle with exactly this name. -/
def ofName? (text : String) : Option Handle :=
  all.find? (·.name == text)

/-- The kind of node that has the handle. -/
def nodeKind : Handle → NodeKind
  | .datasetOutput => .dataset
  | .modelInput => .model
  | .modelOutput => .model
  | .trainingInput => .training

end Handle

/-- The kinds of edges. -/
inductive EdgeKind where
  | datasetToModel
  | modelToTraining
deriving DecidableEq

namespace EdgeKind

def all : List EdgeKind := [.datasetToModel, .modelToTraining]

/-- The handles at which an edge of the kind begins and ends. -/
def handles : EdgeKind → Handle × Handle
  | .datasetToModel => (.datasetOutput, .modelInput)
  | .modelToTraining => (.modelOutput, .trainingInput)

/-- The kinds of nodes at which an edge of the kind begins and ends. -/
def endpointKinds (kind : EdgeKind) : NodeKind × NodeKind :=
  (kind.handles.1.nodeKind, kind.handles.2.nodeKind)

/-- The kind of the edges between two handles. -/
def ofHandles? (source target : Handle) : Option EdgeKind :=
  all.find? (·.handles == (source, target))

/-- The kind of the edges between the handles with these names. -/
def ofHandleNames? (source target : String) : Option EdgeKind := do
  let source ← Handle.ofName? source
  let target ← Handle.ofName? target
  ofHandles? source target

/-- The kind of the edges that leave nodes of a kind. -/
def leaving? : NodeKind → Option EdgeKind
  | .dataset => some .datasetToModel
  | .model => some .modelToTraining
  | .training => none

end EdgeKind

/-- An edge from one node to another. -/
structure Edge where
  id : String
  source : String
  target : String
  sourceHandle : String
  targetHandle : String
deriving DecidableEq

namespace Edge

/-- Whether the node is an end of the edge. -/
def touches (edge : Edge) (nodeId : String) : Bool :=
  edge.source == nodeId || edge.target == nodeId

/-- Whether the edge leads from the one node to the other. -/
def connects (edge : Edge) (source target : String) : Bool :=
  edge.source == source && edge.target == target

/-- Whether the edge ends at the handle of the node. -/
def endsAt (edge : Edge) (nodeId : String) (handle : Handle) : Bool :=
  edge.target == nodeId && edge.targetHandle == handle.name

end Edge

end FineTuning

import FineTuning.Graph.Topology

/-!
# Errors of compilation

Compilation collects everything that is wrong before it gives up. A dataset without content is
only a warning as long as another dataset has some.
-/

namespace FineTuning

/-- Something that is wrong with a job, or a warning about it. -/
inductive CompileError where
  | topology (cause : TopologyError)
  | nodeMissing (nodeId : String)
  | datasetMissingReference (nodeId : String)
  | noValidDatasets
  | modelNotSelected (nodeId : String)
  | invalidEpochs (nodeId : String) (value : UInt32)
  | invalidBatchSize (nodeId : String) (value : String)
  | invalidQuantization (nodeId : String) (field : String) (value : String)
  | emptyField (field : String)
  | danglingEdge (source : String) (target : String)
deriving DecidableEq

/-- The text of the error. -/
def CompileError.message : CompileError → String
  | .topology cause => cause.message
  | .nodeMissing nodeId =>
    s!"Node '{nodeId}' was selected by topology validation but is missing from the graph"
  | .datasetMissingReference nodeId =>
    s!"Dataset '{nodeId}' has no content reference and was excluded"
  | .noValidDatasets => "no datasets with valid references"
  | .modelNotSelected nodeId => s!"Model node '{nodeId}' has no selected base model"
  | .invalidEpochs nodeId value =>
    s!"Training node '{nodeId}' has {value.toNat.repr} epochs, expected 1 to 5"
  | .invalidBatchSize nodeId value =>
    s!"Training node '{nodeId}' has batch size '{value}', which is not an integer"
  | .invalidQuantization nodeId field value =>
    s!"Training node '{nodeId}' has {field} '{value}', expected int4 or int8"
  | .emptyField field => s!"Required field '{field}' is empty"
  | .danglingEdge source target =>
    s!"Edge {source} -> {target} references a node that is not part of the schema"

/-- Everything that is wrong with a job. -/
structure CompileFailure where
  errors : List CompileError
deriving DecidableEq

namespace CompileFailure

/-- The texts of the errors. -/
def messages (failure : CompileFailure) : List String :=
  failure.errors.map (·.message)

/-- The texts of the errors as one. -/
def message (failure : CompileFailure) : String :=
  "Compilation failed: " ++ "; ".intercalate failure.messages

end CompileFailure

end FineTuning

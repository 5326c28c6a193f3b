import FineTuning.Graph.Node

/-!
# Partial updates of node data

A patch sets some of the fields of one kind of node. It does not apply to data of another kind,
nor to a locked model.
-/

namespace FineTuning

/-- Fields to set on a dataset. -/
structure DatasetPatch where
  title : Option String := none
  description : Option String := none
  contentUrl : Option String := none
  storageId : Option String := none
  status : Option DatasetStatus := none
  activeTab : Option String := none
deriving DecidableEq

/-- Fields to set on a model. -/
structure ModelPatch where
  title : Option String := none
  description : Option String := none
  selectedModel : Option SelectedModel := none
  isLocked : Option Bool := none
deriving DecidableEq

/-- Fields to set on a training node. -/
structure TrainingPatch where
  title : Option String := none
  description : Option String := none
  epochs : Option UInt32 := none
  batchSize : Option String := none
  quantization : Option String := none
  downloadQuant : Option String := none
deriving DecidableEq

/-- The data with the fields of the patch set. -/
def DatasetPatch.apply (patch : DatasetPatch) (data : DatasetData) : DatasetData where
  title := patch.title.getD data.title
  description := patch.description.getD data.description
  contentUrl := patch.contentUrl.or data.contentUrl
  storageId := patch.storageId.or data.storageId
  status := patch.status.getD data.status
  activeTab := patch.activeTab.or data.activeTab

/-- The data with the fields of the patch set. -/
def ModelPatch.apply (patch : ModelPatch) (data : ModelData) : ModelData where
  title := patch.title.getD data.title
  description := patch.description.getD data.description
  selectedModel := patch.selectedModel.or data.selectedModel
  isLocked := patch.isLocked.getD data.isLocked

/-- The data with the fields of the patch set. -/
def TrainingPatch.apply (patch : TrainingPatch) (data : TrainingData) : TrainingData where
  title := patch.title.getD data.title
  description := patch.description.getD data.description
  epochs := patch.epochs.getD data.epochs
  batchSize := patch.batchSize.getD data.batchSize
  quantization := patch.quantization.getD data.quantization
  downloadQuant := patch.downloadQuant.getD data.downloadQuant

/-- A patch for one kind of node. -/
inductive NodePatch where
  | dataset (patch : DatasetPatch)
  | model (patch : ModelPatch)
  | training (patch : TrainingPatch)
deriving DecidableEq

namespace NodePatch

/-- The kind of node that the patch is for. -/
def kind : NodePatch → NodeKind
  | .dataset _ => .dataset
  | .model _ => .model
  | .training _ => .training

/-- Whether the patch sets nothing. -/
def isEmpty : NodePatch → Bool
  | .dataset patch => patch == {}
  | .model patch => patch == {}
  | .training patch => patch == {}

/-- The patched data, unless it is of another kind or locked. -/
def applyTo? : NodePatch → NodeData → Option NodeData
  | .dataset patch, .dataset data => some (.dataset (patch.apply data))
  | .model patch, .model data =>
    if data.isLocked then none else some (.model (patch.apply data))
  | .training patch, .training data => some (.training (patch.apply data))
  | _, _ => none

end NodePatch

end FineTuning

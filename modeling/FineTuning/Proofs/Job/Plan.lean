import FineTuning.Proofs.Job.Description
import FineTuning.Proofs.Text.Blank
import FineTuning.Proofs.Text.Numeral

/-!
# Plans of reports

What planning does with any graph and any report, whether or not one belongs to the other.

* `ofReport_of_errors`, `ofReport_of_no_errors`: a plan comes of a valid report just when nothing
  is wrong with the datasets, the model and the training node; all that is wrong is named.
* `trainingFaults_eq`: the rules for the settings of a training node.
* `of_ofReport_eq_ok`: what every plan is made of.
* `ofReport_of_findsSame`: a plan depends only on the nodes of the report and the edges.
* `isClosed_of_ofReport`: in every plan, the edges join symbols and the batch size is a number.
-/

namespace FineTuning

/-- The error, unless the condition holds. -/
def faultUnless (p : Prop) [Decidable p] (error : CompileError) : List CompileError :=
  if p then [] else [error]

section FaultUnless

variable {p q : Prop} [Decidable p] [Decidable q] {error : CompileError}

@[simp] theorem faultUnless_eq_nil_iff : faultUnless p error = [] ↔ p := by
  simp [faultUnless]

theorem eq_of_mem_faultUnless {other : CompileError} (h : other ∈ faultUnless p error) :
    other = error := by
  unfold faultUnless at h
  split at h
  · cases h
  · exact List.mem_singleton.mp h

theorem faultUnless_congr (h : p ↔ q) : faultUnless p error = faultUnless q error :=
  if_congr h rfl rfl

theorem toList_eq_faultUnless {fault? : Option CompileError} (hgood : p → fault? = none)
    (hbad : ¬p → fault? = some error) : fault?.toList = faultUnless p error := by
  unfold faultUnless
  split
  · rename_i h; rw [hgood h]; rfl
  · rename_i h; rw [hbad h]; rfl

end FaultUnless

/-! ## Settings -/

theorem Quantization.isSome_ofName?_iff {text : String} :
    (ofName? text).isSome = true ↔ text = "int4" ∨ text = "int8" := by
  rw [ofName?, List.find?_isSome]
  simp only [all, name, List.mem_cons, List.not_mem_nil, or_false, exists_eq_or_imp,
    exists_eq_left, beq_iff_eq, eq_comm (b := text)]

theorem Plan.isSome_batchSizeOf?_iff {text : String} :
    (batchSizeOf? text).isSome = true ↔ Text.Numeral.IsUInt32 (Text.trim text) :=
  Text.Numeral.isSome_uint32?_iff

/-- The settings of a training node are those of a job. -/
structure TrainingData.IsSound (data : TrainingData) : Prop where
  epochs : 1 ≤ data.epochs ∧ data.epochs ≤ 5
  batchSize : Text.Numeral.IsUInt32 (Text.trim data.batchSize)
  quantization : data.quantization = "int4" ∨ data.quantization = "int8"
  downloadQuant : data.downloadQuant = "int4" ∨ data.downloadQuant = "int8"

/-- Everything that is wrong with the settings of a training node. -/
def TrainingData.faults (nodeId : String) (data : TrainingData) : List CompileError :=
  faultUnless (1 ≤ data.epochs ∧ data.epochs ≤ 5) (.invalidEpochs nodeId data.epochs) ++
    faultUnless (Text.Numeral.IsUInt32 (Text.trim data.batchSize))
      (.invalidBatchSize nodeId data.batchSize) ++
    faultUnless (data.quantization = "int4" ∨ data.quantization = "int8")
      (.invalidQuantization nodeId "quantization" data.quantization) ++
    faultUnless (data.downloadQuant = "int4" ∨ data.downloadQuant = "int8")
      (.invalidQuantization nodeId "downloadQuant" data.downloadQuant)

theorem TrainingData.faults_eq_nil_iff {data : TrainingData} {nodeId : String} :
    data.faults nodeId = [] ↔ data.IsSound := by
  simp only [faults, List.append_eq_nil_iff, faultUnless_eq_nil_iff, and_assoc]
  exact ⟨fun ⟨hmin, hmax, hb, hq, hd⟩ => ⟨⟨hmin, hmax⟩, hb, hq, hd⟩,
    fun h => ⟨h.epochs.1, h.epochs.2, h.batchSize, h.quantization, h.downloadQuant⟩⟩

namespace Plan

theorem toList_epochsFault? (nodeId : String) (data : TrainingData) :
    (epochsFault? nodeId data).toList =
      faultUnless (1 ≤ data.epochs ∧ data.epochs ≤ 5) (.invalidEpochs nodeId data.epochs) :=
  toList_eq_faultUnless (fun h => if_pos h) fun h => if_neg h

theorem toList_batchSizeFault? (nodeId batchSize : String) :
    (batchSizeFault? nodeId batchSize).toList =
      faultUnless (Text.Numeral.IsUInt32 (Text.trim batchSize))
        (.invalidBatchSize nodeId batchSize) := by
  refine toList_eq_faultUnless (fun h => ?_) fun h => ?_
  all_goals
    rw [← isSome_batchSizeOf?_iff] at h
    unfold batchSizeFault?
    split <;> simp_all

theorem toList_quantizationFault? (nodeId field value : String) :
    (quantizationFault? nodeId field value).toList =
      faultUnless (value = "int4" ∨ value = "int8")
        (.invalidQuantization nodeId field value) := by
  refine toList_eq_faultUnless (fun h => ?_) fun h => ?_
  all_goals
    rw [← Quantization.isSome_ofName?_iff] at h
    unfold quantizationFault?
    split <;> simp_all

theorem trainingFaults_eq (nodeId : String) (data : TrainingData) :
    trainingFaults nodeId data = data.faults nodeId := by
  rw [trainingFaults, toList_epochsFault?, toList_batchSizeFault?, toList_quantizationFault?,
    toList_quantizationFault?, TrainingData.faults]

end Plan

/-! ## Datasets and models -/

/-- The dataset has a URL or a storage id. -/
def DatasetData.HasContent (data : DatasetData) : Prop :=
  Text.IsGiven data.contentUrl ∨ Text.IsGiven data.storageId

instance (data : DatasetData) : Decidable data.HasContent :=
  inferInstanceAs (Decidable (_ ∨ _))

theorem DatasetData.isSome_contentReference?_iff {data : DatasetData} :
    data.contentReference?.isSome = true ↔ data.HasContent := by
  unfold contentReference? HasContent
  rw [← Text.isSome_bind_nonBlank?_iff, ← Text.isSome_bind_nonBlank?_iff]
  cases data.contentUrl.bind Text.nonBlank? with
  | some url => simp
  | none => simp only [Option.isSome_map, Option.isSome_none, Bool.false_eq_true, false_or]

/-- The node is a dataset with content. -/
def Node.HasContent (node : Node) : Prop :=
  ∃ data, node.data = .dataset data ∧ data.HasContent

theorem Node.hasContent_iff {node : Node} {data : DatasetData} (h : node.data = .dataset data) :
    node.HasContent ↔ data.HasContent := by
  simp [HasContent, h]

instance (node : Node) : Decidable node.HasContent :=
  match h : node.data with
  | .dataset _ => decidable_of_iff _ (Node.hasContent_iff h).symm
  | .model _ => .isFalse fun ⟨_, hdata, _⟩ => by simp [h] at hdata
  | .training _ => .isFalse fun ⟨_, hdata, _⟩ => by simp [h] at hdata

/-- A model is chosen. -/
def ModelData.HasSelection (data : ModelData) : Prop :=
  Text.IsGiven (data.selectedModel.map (·.id))

instance (data : ModelData) : Decidable data.HasSelection :=
  inferInstanceAs (Decidable (Text.IsGiven _))

namespace Plan

variable {g : Graph} {storagePrefix id : String} {node : Node}

theorem requireNode_eq_ok_iff : requireNode g id = .ok node ↔ g.node? id = some node := by
  unfold requireNode
  cases g.node? id <;> simp

/-- What becomes of a dataset of the graph. -/
theorem findDataset_of_node {data : DatasetData} (hnode : g.node? node.id = some node)
    (hdata : node.data = .dataset data) :
    findDataset g storagePrefix node.id =
      data.contentReference?.elim (.withoutContent node.id) fun reference =>
        .usable node.id (uriOf storagePrefix reference) := by
  simp only [findDataset, requireNode, hnode, hdata]
  cases data.contentReference? <;> rfl

theorem error?_findDataset {data : DatasetData} (hnode : g.node? node.id = some node)
    (hdata : node.data = .dataset data) :
    (findDataset g storagePrefix node.id).error? = none := by
  rw [findDataset_of_node hnode hdata]
  cases data.contentReference? <;> rfl

theorem isSome_usable?_findDataset {data : DatasetData} (hnode : g.node? node.id = some node)
    (hdata : node.data = .dataset data) :
    (findDataset g storagePrefix node.id).usable?.isSome = true ↔ node.HasContent := by
  rw [findDataset_of_node hnode hdata, Node.hasContent_iff hdata,
    ← DatasetData.isSome_contentReference?_iff]
  cases data.contentReference? <;> simp [DatasetFinding.usable?]

theorem warning?_findDataset {data : DatasetData} (hnode : g.node? node.id = some node)
    (hdata : node.data = .dataset data) :
    (findDataset g storagePrefix node.id).warning? =
      if node.HasContent then none else some (.datasetMissingReference node.id) := by
  rw [findDataset_of_node hnode hdata]
  simp only [Node.hasContent_iff hdata, ← DatasetData.isSome_contentReference?_iff]
  cases data.contentReference? <;> rfl

/-- A dataset that is used is one of the graph with content. -/
theorem of_usable?_findDataset {found : String × String}
    (h : (findDataset g storagePrefix id).usable? = some found) :
    ∃ node data reference, g.node? id = some node ∧ node.data = .dataset data ∧
      data.contentReference? = some reference ∧ found = (id, uriOf storagePrefix reference) := by
  unfold findDataset at h
  split at h
  · cases h
  · rename_i node hnode
    split at h
    · rename_i data hdata
      split at h
      · rename_i reference hreference
        cases h
        exact ⟨node, data, reference, requireNode_eq_ok_iff.mp hnode, hdata, hreference, rfl⟩
      · cases h
    · cases h

/-- What is wrong with the model of the report. -/
theorem errorsOf_planModel {data : ModelData} (hnode : g.node? id = some node)
    (hdata : node.data = .model data) :
    errorsOf ((planModel g id).mapError fun error => [error]) =
      faultUnless data.HasSelection (.modelNotSelected node.id) := by
  have hselected : (data.selectedModel.bind fun model => Text.nonBlank? model.id).isSome = true ↔
      data.HasSelection := by
    rw [ModelData.HasSelection, ← Text.isSome_bind_nonBlank?_iff, Option.bind_map]
    rfl
  simp only [planModel, requireNode, hnode, hdata, bind, Except.bind, faultUnless, ← hselected]
  cases data.selectedModel.bind fun model => Text.nonBlank? model.id <;> rfl

/-- The model of a plan is one of the graph, with a model chosen. -/
theorem of_planModel_eq_ok {planned : PlannedModel} (h : planModel g id = .ok planned) :
    ∃ node data selected, g.node? id = some node ∧ node.data = .model data ∧
      data.selectedModel = some selected ∧ Text.isBlankText selected.id = false ∧
      planned = ⟨modelSymbol, node.id, Text.trim selected.id⟩ := by
  obtain ⟨node, hnode, hplanned⟩ := bind_eq_ok_iff.mp h
  split at hplanned
  · rename_i data hdata
    split at hplanned
    · rename_i modelId hmodel
      obtain ⟨selected, hselected, hid⟩ := Option.bind_eq_some_iff.mp hmodel
      obtain ⟨hblank, rfl⟩ := Text.nonBlank?_eq_some_iff.mp hid
      cases hplanned
      exact ⟨node, data, selected, requireNode_eq_ok_iff.mp hnode, hdata, hselected, hblank, rfl⟩
    · cases hplanned
  · cases hplanned

/-- The training node of a plan is one of the graph, with sound settings. -/
theorem of_planTraining_eq_ok {planned : PlannedTraining} (h : planTraining g id = .ok planned) :
    ∃ node data trainQuant downloadQuant, g.node? id = some node ∧ node.data = .training data ∧
      data.IsSound ∧ Quantization.ofName? data.quantization = some trainQuant ∧
      Quantization.ofName? data.downloadQuant = some downloadQuant ∧
      planned = ⟨trainingSymbol, node.id, data.epochs, Text.trim data.batchSize, trainQuant,
        downloadQuant⟩ := by
  unfold planTraining at h
  split at h
  · cases h
  · rename_i node hnode
    split at h
    · rename_i data hdata
      split at h
      · rename_i trainQuant downloadQuant hfaults htrain hdownload
        cases h
        rw [trainingFaults_eq, TrainingData.faults_eq_nil_iff] at hfaults
        exact ⟨node, data, trainQuant, downloadQuant, requireNode_eq_ok_iff.mp hnode, hdata,
          hfaults, htrain, hdownload, rfl⟩
      · cases h
    · cases h

/-- The training node becomes part of a plan, or something is wrong with it. -/
theorem planTraining_cases (g : Graph) (id : String) :
    (∃ planned, planTraining g id = .ok planned) ∨
      ∃ errors, errors ≠ [] ∧ planTraining g id = .error errors := by
  unfold planTraining
  split
  · rename_i error _
    exact .inr ⟨[error], by simp, rfl⟩
  · rename_i node _
    split
    · rename_i data _
      split
      · exact .inl ⟨_, rfl⟩
      · rename_i hfaulty
        refine .inr ⟨_, fun hnil => ?_, rfl⟩
        have hsound := TrainingData.faults_eq_nil_iff.mp (trainingFaults_eq node.id data ▸ hnil)
        obtain ⟨quant, hquant⟩ :=
          Option.isSome_iff_exists.mp (Quantization.isSome_ofName?_iff.mpr hsound.quantization)
        obtain ⟨download, hdownload⟩ :=
          Option.isSome_iff_exists.mp (Quantization.isSome_ofName?_iff.mpr hsound.downloadQuant)
        exact hfaulty quant download hnil hquant hdownload
    · exact .inr ⟨_, by simp, rfl⟩

theorem errorsOf_planTraining {data : TrainingData} (hnode : g.node? id = some node)
    (hdata : node.data = .training data) :
    errorsOf (planTraining g id) = data.faults node.id := by
  simp only [planTraining, requireNode, hnode, hdata, trainingFaults_eq]
  split
  · rename_i h _ _
    rw [h]; rfl
  · rfl

/-! ## The whole plan -/

/-- The symbols of an edge of the plan are symbols of its nodes. -/
theorem planEdge?_ends {symbols : List (String × String)} {e : Edge} {planned : PlannedEdge}
    (h : planEdge? symbols e = some planned) :
    planned.source ∈ symbols.map (·.2) ∧ planned.target ∈ symbols.map (·.2) := by
  have hmem : ∀ {id symbol}, lastSymbol? symbols id = some symbol → symbol ∈ symbols.map (·.2) := by
    intro id symbol hsymbol
    obtain ⟨entry, hentry, rfl⟩ := Option.map_eq_some_iff.mp hsymbol
    exact List.mem_map_of_mem (List.mem_reverse.mp (List.mem_of_find?_eq_some hentry))
  obtain ⟨source, hsource, hrest⟩ := Option.bind_eq_some_iff.mp h
  obtain ⟨target, htarget, hplanned⟩ := Option.bind_eq_some_iff.mp hrest
  cases hplanned
  exact ⟨hmem hsource, hmem htarget⟩

variable {report : TopologyReport}

/-- The datasets of the plan. -/
def plannedDatasets (g : Graph) (report : TopologyReport) (storagePrefix : String) :
    List PlannedDataset :=
  numberDatasets 0 ((report.datasets.map (findDataset g storagePrefix)).filterMap (·.usable?))

theorem numberDatasets_eq_nil_iff {index : Nat} {found : List (String × String)} :
    numberDatasets index found = [] ↔ found = [] := by
  cases found <;> simp [numberDatasets]

/-- The warnings about datasets that are left out. -/
def warnings (g : Graph) (report : TopologyReport) (storagePrefix : String) : List CompileError :=
  (report.datasets.map (findDataset g storagePrefix)).filterMap (·.warning?)

/-- Everything that is wrong with the datasets, the model and the training node. -/
def errors (g : Graph) (report : TopologyReport) (storagePrefix : String) : List CompileError :=
  (report.datasets.map (findDataset g storagePrefix)).filterMap (·.error?) ++
    faultUnless (plannedDatasets g report storagePrefix ≠ []) .noValidDatasets ++
    errorsOf ((planModel g (report.model.getD "")).mapError fun error => [error]) ++
    errorsOf (planTraining g (report.training.getD ""))

/-- An invalid report gives its own errors. -/
theorem ofReport_of_invalid (h : report.isValid = false) :
    ofReport g report storagePrefix = .error ⟨report.errors.map .topology⟩ := by
  simp only [ofReport, h]
  rfl

theorem ofReport_eq (h : report.isValid = true) :
    ofReport g report storagePrefix =
      match errors g report storagePrefix,
        (planModel g (report.model.getD "")).mapError fun error => [error],
        planTraining g (report.training.getD "") with
      | [], .ok model, .ok training =>
        .ok (⟨plannedDatasets g report storagePrefix, model, training,
          g.edges.filterMap
            (planEdge? (symbols (plannedDatasets g report storagePrefix) model training))⟩,
          warnings g report storagePrefix)
      | _, _, _ => .error ⟨errors g report storagePrefix ++ warnings g report storagePrefix⟩ := by
  have hno : (if (plannedDatasets g report storagePrefix).isEmpty then
      [CompileError.noValidDatasets] else []) =
      faultUnless (plannedDatasets g report storagePrefix ≠ []) .noValidDatasets := by
    unfold faultUnless
    cases plannedDatasets g report storagePrefix <;> rfl
  unfold errors
  rw [← hno]
  simp only [ofReport, h]
  rfl

/-- All that is wrong is named, and after it the datasets without content. -/
theorem ofReport_of_errors (h : report.isValid = true)
    (herrors : errors g report storagePrefix ≠ []) :
    ofReport g report storagePrefix =
      .error ⟨errors g report storagePrefix ++ warnings g report storagePrefix⟩ := by
  rw [ofReport_eq h]
  split
  · rename_i hnil _ _
    exact absurd hnil herrors
  · rfl

/-- Nothing else keeps a plan from being made. -/
theorem ofReport_of_no_errors (h : report.isValid = true)
    (herrors : errors g report storagePrefix = []) :
    ∃ plan, ofReport g report storagePrefix =
      .ok (plan, warnings g report storagePrefix) := by
  rw [ofReport_eq h, herrors]
  simp only [errors, List.append_eq_nil_iff] at herrors
  obtain ⟨⟨-, hmodel⟩, htraining⟩ := herrors
  cases hm : planModel g (report.model.getD "") with
  | error error => rw [hm] at hmodel; cases hmodel
  | ok model =>
    obtain ⟨training, ht⟩ | ⟨faults, hne, ht⟩ := planTraining_cases g (report.training.getD "")
    · rw [ht]
      exact ⟨_, rfl⟩
    · rw [ht] at htraining
      exact absurd htraining hne

/-- What a plan is made of. -/
structure IsMadeOf (plan : Plan) (g : Graph) (report : TopologyReport) (storagePrefix : String) :
    Prop where
  datasets : plan.datasets = plannedDatasets g report storagePrefix
  model : planModel g (report.model.getD "") = .ok plan.model
  training : planTraining g (report.training.getD "") = .ok plan.training
  edges : plan.edges =
    g.edges.filterMap (planEdge? (symbols plan.datasets plan.model plan.training))

/-- A plan comes of a valid report, and is made of what is found in the graph. -/
theorem of_ofReport_eq_ok {plan : Plan} {warned : List CompileError}
    (h : ofReport g report storagePrefix = .ok (plan, warned)) :
    report.isValid = true ∧ plan.IsMadeOf g report storagePrefix ∧
      warned = warnings g report storagePrefix := by
  have hvalid : report.isValid = true := by
    by_contra hinvalid
    rw [ofReport_of_invalid (Bool.not_eq_true _ ▸ hinvalid)] at h
    cases h
  rw [ofReport_eq hvalid] at h
  split at h
  · rename_i model training _ hmodel htraining
    cases h
    refine ⟨hvalid, ⟨rfl, ?_, htraining, rfl⟩, rfl⟩
    cases hplanned : planModel g (report.model.getD "") with
    | error error => rw [hplanned] at hmodel; cases hmodel
    | ok planned => rw [hplanned] at hmodel; cases hmodel; rfl
  · cases h

/-- What is made of what is found in the graph is its plan, if nothing is wrong. -/
theorem ofReport_of_isMadeOf {plan : Plan} (h : report.isValid = true)
    (herrors : errors g report storagePrefix = []) (hmade : plan.IsMadeOf g report storagePrefix) :
    ofReport g report storagePrefix = .ok (plan, warnings g report storagePrefix) := by
  rw [ofReport_eq h, herrors, hmade.model, hmade.training, ← hmade.datasets]
  simp only [Except.mapError, ← hmade.edges]

/-- In every plan, the edges join symbols and the batch size is a number. -/
theorem isClosed_of_ofReport {plan : Plan} {warned : List CompileError}
    (h : ofReport g report storagePrefix = .ok (plan, warned)) :
    plan.looseEdges = [] ∧ ∃ batchSize, batchSizeOf? plan.training.batchSize = some batchSize := by
  obtain ⟨-, hmade, -⟩ := of_ofReport_eq_ok h
  constructor
  · refine looseEdges_eq_nil_iff.mpr fun planned hplanned => ?_
    rw [hmade.edges] at hplanned
    obtain ⟨e, -, he⟩ := List.mem_filterMap.mp hplanned
    exact planEdge?_ends he
  · obtain ⟨node, data, _, _, -, -, hsound, -, -, hplanned⟩ := of_planTraining_eq_ok hmade.training
    rw [← Option.isSome_iff_exists, hplanned, isSome_batchSizeOf?_iff, Text.trim_trim]
    exact hsound.batchSize

/-! ## Graphs with the same nodes -/

section SameNodes

variable {g' : Graph}

theorem requireNode_congr (h : g'.node? id = g.node? id) :
    requireNode g' id = requireNode g id := by
  rw [requireNode, h, requireNode]

theorem findDataset_congr (h : g'.node? id = g.node? id) (storagePrefix : String) :
    findDataset g' storagePrefix id = findDataset g storagePrefix id := by
  rw [findDataset, requireNode_congr h, findDataset]

theorem planModel_congr (h : g'.node? id = g.node? id) : planModel g' id = planModel g id := by
  rw [planModel, requireNode_congr h, planModel]

theorem planTraining_congr (h : g'.node? id = g.node? id) :
    planTraining g' id = planTraining g id := by
  rw [planTraining, requireNode_congr h, planTraining]

/-- The graphs have the same nodes under the ids of the report. -/
structure FindsSame (g' g : Graph) (report : TopologyReport) : Prop where
  datasets : ∀ id ∈ report.datasets, g'.node? id = g.node? id
  model : g'.node? (report.model.getD "") = g.node? (report.model.getD "")
  training : g'.node? (report.training.getD "") = g.node? (report.training.getD "")

/-- The plan with the edges of another graph between its nodes. -/
def withEdgesOf (plan : Plan) (g : Graph) : Plan :=
  { plan with
    edges := g.edges.filterMap (planEdge? (symbols plan.datasets plan.model plan.training)) }

/-- **Only the nodes of the report matter to a plan,** and the edges between them. -/
theorem ofReport_of_findsSame (h : FindsSame g' g report) (hvalid : report.isValid = true)
    (storagePrefix : String) :
    ofReport g' report storagePrefix =
      (ofReport g report storagePrefix).map fun planned => (planned.1.withEdgesOf g', planned.2) := by
  have hfindings : report.datasets.map (findDataset g' storagePrefix) =
      report.datasets.map (findDataset g storagePrefix) :=
    List.map_congr_left fun id hid => findDataset_congr (h.datasets id hid) storagePrefix
  have hdatasets : plannedDatasets g' report storagePrefix =
      plannedDatasets g report storagePrefix := by
    rw [plannedDatasets, hfindings, plannedDatasets]
  have hwarnings : warnings g' report storagePrefix = warnings g report storagePrefix := by
    rw [warnings, hfindings, warnings]
  have hmodel := planModel_congr h.model
  have htraining := planTraining_congr h.training
  have herrors : errors g' report storagePrefix = errors g report storagePrefix := by
    rw [errors, hfindings, hdatasets, hmodel, htraining, errors]
  rw [ofReport_eq hvalid, ofReport_eq hvalid, hdatasets, hwarnings, hmodel, htraining, herrors]
  generalize errors g report storagePrefix = faults
  generalize (planModel g (report.model.getD "")).mapError (fun error => [error]) = model
  generalize planTraining g (report.training.getD "") = training
  cases faults <;> cases model <;> cases training <;> rfl

end SameNodes

end Plan

end FineTuning

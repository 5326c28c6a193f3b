import FineTuning.Proofs.Graph.Outline
import FineTuning.Proofs.Job.Outcome
import FineTuning.Proofs.Job.Symbols

/-!
# Jobs of outlines

The outline of a graph has the job of the graph: the same description, with the same datasets left
out. What goes wrong with one goes wrong with the other.

* `findDataset_outline`, `planModel_outline`, `planTraining_outline`: what is found on the path.
* `filterMap_planEdge?_outline`: the edges of the plan do not depend on the ids of the nodes.
* `plan_outline`, `compile_outline`: plans and jobs of outlines.
* `compile_of_outline_eq`: graphs with the same outline have the same job.
-/

namespace FineTuning

/-! ## Other ids -/

/-- The same error about the other ids. -/
def CompileError.rename (rename : String → String) : CompileError → CompileError
  | .topology cause => .topology (cause.rename rename)
  | .nodeMissing nodeId => .nodeMissing (rename nodeId)
  | .datasetMissingReference nodeId => .datasetMissingReference (rename nodeId)
  | .noValidDatasets => .noValidDatasets
  | .modelNotSelected nodeId => .modelNotSelected (rename nodeId)
  | .invalidEpochs nodeId value => .invalidEpochs (rename nodeId) value
  | .invalidBatchSize nodeId value => .invalidBatchSize (rename nodeId) value
  | .invalidQuantization nodeId field value => .invalidQuantization (rename nodeId) field value
  | .emptyField field => .emptyField field
  | .danglingEdge source target => .danglingEdge source target

/-- The same errors about the other ids. -/
def CompileFailure.rename (rename : String → String) (failure : CompileFailure) : CompileFailure :=
  ⟨failure.errors.map (·.rename rename)⟩

/-- The dataset under the other id. -/
def PlannedDataset.rename (rename : String → String) (d : PlannedDataset) : PlannedDataset :=
  { d with nodeId := rename d.nodeId }

/-- The model under the other id. -/
def PlannedModel.rename (rename : String → String) (m : PlannedModel) : PlannedModel :=
  { m with nodeId := rename m.nodeId }

/-- The training node under the other id. -/
def PlannedTraining.rename (rename : String → String) (t : PlannedTraining) : PlannedTraining :=
  { t with nodeId := rename t.nodeId }

/-- The plan with the other ids under the same symbols. -/
def Plan.rename (rename : String → String) (plan : Plan) : Plan where
  datasets := plan.datasets.map (·.rename rename)
  model := plan.model.rename rename
  training := plan.training.rename rename
  edges := plan.edges

/-- The job with the other ids; its description has none of them. -/
def Job.rename (rename : String → String) (job : Job) : Job where
  description := job.description
  plan := job.plan.rename rename
  warnings := job.warnings.map (·.rename rename)

/-- The same finding about the other ids. -/
def Plan.DatasetFinding.rename (rename : String → String) : DatasetFinding → DatasetFinding
  | .usable nodeId uri => .usable (rename nodeId) uri
  | .withoutContent nodeId => .withoutContent (rename nodeId)
  | .faulty error => .faulty (error.rename rename)

@[simp] theorem TopologyError.rename_id (error : TopologyError) : error.rename id = error := by
  cases error <;> rfl

@[simp] theorem CompileError.rename_id (error : CompileError) : error.rename id = error := by
  cases error <;> simp [rename]

namespace Plan

variable {g : Graph} {rename : String → String} {id storagePrefix : String}

/-! ## What is found -/

theorem map_faultUnless {p : Prop} [Decidable p] (error : CompileError) :
    (faultUnless p error).map (·.rename rename) = faultUnless p (error.rename rename) := by
  unfold faultUnless
  split <;> rfl

theorem contentReference?_outline (data : DatasetData) :
    data.outline.contentReference? = data.contentReference? := rfl

theorem selection_outline (data : ModelData) :
    (data.outline.selectedModel.bind fun model => Text.nonBlank? model.id) =
      data.selectedModel.bind fun model => Text.nonBlank? model.id := by
  rw [ModelData.outline, Option.bind_map]
  rfl

theorem trainingFaults_outline (nodeId : String) (data : TrainingData) :
    trainingFaults (rename nodeId) data.outline =
      (trainingFaults nodeId data).map (·.rename rename) := by
  simp only [trainingFaults_eq, TrainingData.faults, List.map_append, map_faultUnless]
  rfl

theorem errorsOf_translate {α β : Type} {onValue : α → β}
    (check : Except (List CompileError) α) :
    errorsOf (translate (List.map (·.rename rename)) onValue check) =
      (errorsOf check).map (·.rename rename) := by
  cases check <;> rfl

theorem mapError_translate {α β : Type} {onValue : α → β} (check : Except CompileError α) :
    (translate (·.rename rename) onValue check).mapError (fun error => [error]) =
      translate (List.map (·.rename rename)) onValue (check.mapError fun error => [error]) := by
  cases check <;> rfl

section Injective

variable (hrename : Set.InjOn rename {id | g.Mentions id})
include hrename

theorem requireNode_outline (hid : g.Mentions id) :
    requireNode (g.outline rename) (rename id) =
      translate (·.rename rename) (·.outline rename) (requireNode g id) := by
  unfold requireNode
  rw [Graph.node?_outline hrename hid]
  cases g.node? id <;> rfl

theorem findDataset_outline (hid : g.Mentions id) (storagePrefix : String) :
    findDataset (g.outline rename) storagePrefix (rename id) =
      (findDataset g storagePrefix id).rename rename := by
  unfold findDataset
  rw [requireNode_outline hrename hid]
  cases requireNode g id with
  | error error => rfl
  | ok node =>
    obtain ⟨_, _, _, data⟩ := node
    cases data with
    | dataset data =>
      simp only [translate_ok, Node.outline, NodeData.outline, contentReference?_outline]
      cases data.contentReference? <;> rfl
    | model data => rfl
    | training data => rfl

theorem planModel_outline (hid : g.Mentions id) :
    planModel (g.outline rename) (rename id) =
      translate (·.rename rename) (·.rename rename) (planModel g id) := by
  refine translate_bind (requireNode_outline hrename hid) fun node _ => ?_
  obtain ⟨_, _, _, data⟩ := node
  cases data with
  | model data =>
    simp only [Node.outline, NodeData.outline, selection_outline]
    cases data.selectedModel.bind fun model => Text.nonBlank? model.id <;> rfl
  | dataset data => rfl
  | training data => rfl

theorem planTraining_outline (hid : g.Mentions id) :
    planTraining (g.outline rename) (rename id) =
      translate (List.map (·.rename rename)) (·.rename rename) (planTraining g id) := by
  unfold planTraining
  rw [requireNode_outline hrename hid]
  cases requireNode g id with
  | error error => rfl
  | ok node =>
    obtain ⟨nodeId, _, _, data⟩ := node
    cases data with
    | training data =>
      simp only [translate_ok, Node.outline, NodeData.outline, trainingFaults_outline,
        TrainingData.quantization_outline, TrainingData.downloadQuant_outline]
      cases trainingFaults nodeId data <;> cases Quantization.ofName? data.quantization <;>
        cases Quantization.ofName? data.downloadQuant <;> rfl
    | dataset data => rfl
    | model data => rfl

end Injective

/-! ## The datasets -/

theorem usable?_rename (finding : DatasetFinding) :
    (finding.rename rename).usable? =
      finding.usable?.map fun entry => (rename entry.1, entry.2) := by
  cases finding <;> rfl

theorem warning?_rename (finding : DatasetFinding) :
    (finding.rename rename).warning? = finding.warning?.map (·.rename rename) := by
  cases finding <;> rfl

theorem error?_rename (finding : DatasetFinding) :
    (finding.rename rename).error? = finding.error?.map (·.rename rename) := by
  cases finding <;> rfl

/-- Numbering does not depend on the ids. -/
theorem numberDatasets_map (index : Nat) (found : List (String × String)) :
    numberDatasets index (found.map fun entry => (rename entry.1, entry.2)) =
      (numberDatasets index found).map (·.rename rename) := by
  induction found generalizing index with
  | nil => rfl
  | cons entry rest ih =>
    rw [List.map_cons, numberDatasets, ih, numberDatasets, List.map_cons]
    rfl

/-! ## The edges -/

theorem symbols_rename (datasets : List PlannedDataset) (model : PlannedModel)
    (training : PlannedTraining) :
    symbols (datasets.map (·.rename rename)) (model.rename rename) (training.rename rename) =
      (symbols datasets model training).map fun entry => (rename entry.1, entry.2) := by
  simp [symbols, PlannedDataset.rename, PlannedModel.rename, PlannedTraining.rename,
    Function.comp_def]

/-- The edges of a plan do not depend on the ids of its nodes. -/
theorem filterMap_planEdge?_outline (hrename : Set.InjOn rename {id | g.Mentions id})
    {symbols : List (String × String)} (hsymbols : ∀ entry ∈ symbols, g.Mentions entry.1) :
    (g.outline rename).edges.filterMap
        (planEdge? (symbols.map fun entry => (rename entry.1, entry.2))) =
      g.edges.filterMap (planEdge? symbols) := by
  have hlast : ∀ {id}, g.Mentions id →
      lastSymbol? (symbols.map fun entry => (rename entry.1, entry.2)) (rename id) =
        lastSymbol? symbols id := by
    intro id hid
    simp only [lastSymbol?, ← List.map_reverse, List.find?_map, Option.map_map]
    congr 1
    refine List.find?_congr fun entry hentry => ?_
    exact Graph.rename_beq hrename (hsymbols entry (List.mem_reverse.mp hentry)) hid
  rw [Graph.outline, List.filterMap_map]
  refine List.filterMap_congr fun e he => ?_
  simp only [Function.comp_apply, planEdge?, Edge.outline, hlast (Graph.mentions_source he),
    hlast (Graph.mentions_target he)]

theorem edges_outline {plan : Plan} {report : TopologyReport}
    (hrename : Set.InjOn rename {id | g.Mentions id})
    (hmade : plan.IsMadeOf g report storagePrefix) :
    (g.outline rename).edges.filterMap (planEdge? (symbols (plan.datasets.map (·.rename rename))
      (plan.model.rename rename) (plan.training.rename rename))) = plan.edges := by
  rw [symbols_rename, hmade.edges]
  exact filterMap_planEdge?_outline hrename fun entry hentry =>
    .inl (nodeIds_subset_of_isMadeOf hmade (List.mem_map_of_mem hentry))

/-! ## The plan -/

section Path

variable {path : TrainingPath} (hrename : Set.InjOn rename {id | g.Mentions id})
  (hpath : path.IsIn g)
include hrename hpath

theorem findings_outline :
    (TopologyReport.valid (path.outline rename)).datasets.map
        (findDataset (g.outline rename) storagePrefix) =
      ((TopologyReport.valid path).datasets.map (findDataset g storagePrefix)).map
        (·.rename rename) := by
  rw [TopologyReport.valid_outline, TopologyReport.rename, List.map_map, List.map_map]
  refine List.map_congr_left fun id hid => ?_
  obtain ⟨node, hnode, rfl⟩ := List.mem_map.mp hid
  exact findDataset_outline hrename (Graph.mentions_id (hpath.datasets node hnode)) storagePrefix

theorem plannedDatasets_outline :
    plannedDatasets (g.outline rename) (.valid (path.outline rename)) storagePrefix =
      (plannedDatasets g (.valid path) storagePrefix).map (·.rename rename) := by
  simp only [plannedDatasets, findings_outline hrename hpath, List.filterMap_map,
    Function.comp_def, usable?_rename, ← List.map_filterMap, numberDatasets_map]

theorem warnings_outline :
    warnings (g.outline rename) (.valid (path.outline rename)) storagePrefix =
      (warnings g (.valid path) storagePrefix).map (·.rename rename) := by
  simp only [warnings, findings_outline hrename hpath, List.filterMap_map,
    Function.comp_def, warning?_rename, ← List.map_filterMap]

theorem planModel_path_outline :
    planModel (g.outline rename) ((TopologyReport.valid (path.outline rename)).model.getD "") =
      translate (·.rename rename) (·.rename rename)
        (planModel g ((TopologyReport.valid path).model.getD "")) :=
  planModel_outline hrename (Graph.mentions_id hpath.model)

theorem planTraining_path_outline :
    planTraining (g.outline rename)
        ((TopologyReport.valid (path.outline rename)).training.getD "") =
      translate (List.map (·.rename rename)) (·.rename rename)
        (planTraining g ((TopologyReport.valid path).training.getD "")) :=
  planTraining_outline hrename (Graph.mentions_id hpath.training)

theorem errors_outline :
    errors (g.outline rename) (.valid (path.outline rename)) storagePrefix =
      (errors g (.valid path) storagePrefix).map (·.rename rename) := by
  have hfaulty : ((TopologyReport.valid (path.outline rename)).datasets.map
      (findDataset (g.outline rename) storagePrefix)).filterMap (·.error?) =
      (((TopologyReport.valid path).datasets.map (findDataset g storagePrefix)).filterMap
        (·.error?)).map (·.rename rename) := by
    simp only [findings_outline hrename hpath, List.filterMap_map, Function.comp_def,
      error?_rename, ← List.map_filterMap]
  have hnone : faultUnless (plannedDatasets (g.outline rename) (.valid (path.outline rename))
      storagePrefix ≠ []) .noValidDatasets =
      (faultUnless (plannedDatasets g (.valid path) storagePrefix ≠ []) .noValidDatasets).map
        (·.rename rename) := by
    rw [map_faultUnless, plannedDatasets_outline hrename hpath]
    exact faultUnless_congr (not_congr List.map_eq_nil_iff)
  rw [errors, hfaulty, hnone, planModel_path_outline hrename hpath,
    planTraining_path_outline hrename hpath, mapError_translate, errorsOf_translate,
    errorsOf_translate, ← List.map_append, ← List.map_append, ← List.map_append, errors]

theorem isMadeOf_outline {plan : Plan} (hmade : plan.IsMadeOf g (.valid path) storagePrefix) :
    (plan.rename rename).IsMadeOf (g.outline rename) (.valid (path.outline rename))
      storagePrefix where
  datasets := by rw [plannedDatasets_outline hrename hpath, ← hmade.datasets, Plan.rename]
  model := by rw [planModel_path_outline hrename hpath, hmade.model, translate_ok, Plan.rename]
  training := by
    rw [planTraining_path_outline hrename hpath, hmade.training, translate_ok, Plan.rename]
  edges := (edges_outline hrename hmade).symm

/-- The plan of the path in the outline has the other ids under the same symbols. -/
theorem ofReport_outline :
    ofReport (g.outline rename) (.valid (path.outline rename)) storagePrefix =
      translate (·.rename rename)
        (fun (plan, warned) => (plan.rename rename, warned.map (·.rename rename)))
        (ofReport g (.valid path) storagePrefix) := by
  by_cases herrors : errors g (.valid path) storagePrefix = []
  · have herrors' :
        errors (g.outline rename) (.valid (path.outline rename)) storagePrefix = [] := by
      rw [errors_outline hrename hpath, herrors, List.map_nil]
    obtain ⟨plan, hplan⟩ := ofReport_of_no_errors rfl herrors
    obtain ⟨-, hmade, -⟩ := of_ofReport_eq_ok hplan
    rw [hplan, ofReport_of_isMadeOf rfl herrors' (isMadeOf_outline hrename hpath hmade),
      warnings_outline hrename hpath, translate_ok]
  · have herrors' :
        errors (g.outline rename) (.valid (path.outline rename)) storagePrefix ≠ [] := by
      rwa [errors_outline hrename hpath, ne_eq, List.map_eq_nil_iff]
    rw [ofReport_of_errors rfl herrors, ofReport_of_errors rfl herrors',
      errors_outline hrename hpath, warnings_outline hrename hpath, translate_error,
      CompileFailure.rename, List.map_append]

end Path

/-! ## The description -/

theorem looseEdges_rename (plan : Plan) : (plan.rename rename).looseEdges = plan.looseEdges := by
  simp only [looseEdges, symbolIds, Plan.rename, symbols_rename, List.map_map]
  rfl

theorem wireNodes_rename (plan : Plan) (batchSize : UInt32) :
    (plan.rename rename).wireNodes batchSize = plan.wireNodes batchSize := by
  simp only [wireNodes, Plan.rename, List.map_map]
  rfl

theorem faults_rename (plan : Plan) (context : JobContext) :
    JobDescription.faults (plan.rename rename) context =
      (JobDescription.faults plan context).map (·.rename rename) := by
  simp only [JobDescription.faults, List.map_append, toList_batchSizeFault?, map_faultUnless,
    JobContext.blankFields, List.map_map]
  rfl

/-- The description of a plan does not depend on the ids of its nodes. -/
theorem ofPlan_rename (plan : Plan) (context : JobContext) :
    JobDescription.ofPlan (plan.rename rename) context =
      translate (·.rename rename) (fun description => description)
        (JobDescription.ofPlan plan context) := by
  by_cases hnil : JobDescription.faults plan context = []
  · have hnil' : JobDescription.faults (plan.rename rename) context = [] := by
      rw [faults_rename, hnil, List.map_nil]
    by_cases hclosed : plan.looseEdges = []
    · obtain ⟨hblank, batchSize, hbatch⟩ := JobDescription.faults_eq_nil_iff.mp hnil
      have hbatch' : batchSizeOf? (plan.rename rename).training.batchSize = some batchSize := hbatch
      have hclosed' : (plan.rename rename).looseEdges = [] := by rw [looseEdges_rename, hclosed]
      rw [JobDescription.ofPlan_eq_ok hblank hbatch hclosed,
        JobDescription.ofPlan_eq_ok hblank hbatch' hclosed', JobDescription.assemble,
        wireNodes_rename]
      rfl
    · have hclosed' : (plan.rename rename).looseEdges ≠ [] := by rwa [looseEdges_rename]
      rw [JobDescription.ofPlan_of_looseEdges hnil hclosed,
        JobDescription.ofPlan_of_looseEdges hnil' hclosed', looseEdges_rename, translate_error,
        CompileFailure.rename, List.map_map]
      rfl
  · have hfaults : JobDescription.faults (plan.rename rename) context ≠ [] := by
      rwa [faults_rename, ne_eq, List.map_eq_nil_iff]
    rw [JobDescription.ofPlan_of_faults hnil, JobDescription.ofPlan_of_faults hfaults,
      faults_rename]
    rfl

end Plan

namespace Graph

variable {g g' : Graph} {rename : String → String} {context : JobContext} {storagePrefix : String}

/-- **The outline has the plan of the graph,** with the other ids under the same symbols. -/
theorem plan_outline (hrename : Set.InjOn rename {id | g.Mentions id}) (storagePrefix : String) :
    (g.outline rename).plan storagePrefix =
      translate (·.rename rename)
        (fun (plan, warned) => (plan.rename rename, warned.map (·.rename rename)))
        (g.plan storagePrefix) := by
  simp only [plan, topology, trainingPath_outline hrename]
  cases hpath : g.trainingPath with
  | ok path => exact Plan.ofReport_outline hrename (isIn_of_trainingPath_eq_ok hpath)
  | error errors =>
    rw [translate_error, Plan.ofReport_of_invalid rfl, Plan.ofReport_of_invalid rfl,
      translate_error, CompileFailure.rename]
    simp only [TopologyReport.invalid, List.map_map]
    rfl

/-- **The outline has the job of the graph,** or the same is wrong with both. -/
theorem compile_outline (hrename : Set.InjOn rename {id | g.Mentions id}) (context : JobContext)
    (storagePrefix : String) :
    (g.outline rename).compile context storagePrefix =
      translate (·.rename rename) (·.rename rename) (g.compile context storagePrefix) := by
  refine translate_bind (plan_outline hrename storagePrefix) fun (plan, warned) _ => ?_
  exact translate_bind (Plan.ofPlan_rename plan context) fun description _ => rfl

/-- **A job does not depend on what is not part of it.** Let one graph be another one under other
ids, with any change to what is left out of an outline. Then both have a job or none; the jobs have
the same description and warn about the same nodes, and the same is wrong with the graphs. -/
theorem compile_of_outline_eq (hrename : Set.InjOn rename {id | g.Mentions id})
    (h : g'.outline id = g.outline rename) (context : JobContext) (storagePrefix : String) :
    ((∃ job', g'.compile context storagePrefix = .ok job') ↔
        ∃ job, g.compile context storagePrefix = .ok job) ∧
      (∀ job job', g.compile context storagePrefix = .ok job →
        g'.compile context storagePrefix = .ok job' →
          job'.description = job.description ∧
            job'.warnings = job.warnings.map (·.rename rename)) ∧
      ∀ failure failure', g.compile context storagePrefix = .error failure →
        g'.compile context storagePrefix = .error failure' →
          failure'.errors = failure.errors.map (·.rename rename) := by
  have hsame := compile_outline (Set.injOn_id {id | g'.Mentions id}) context storagePrefix
  rw [h, compile_outline hrename] at hsame
  refine ⟨?_, fun job job' hjob hjob' => ?_, fun failure failure' hfailure hfailure' => ?_⟩
  · cases hg : g.compile context storagePrefix <;>
      cases hg' : g'.compile context storagePrefix <;> simp_all
  · rw [hjob, hjob'] at hsame
    have hsame : job.rename rename = job'.rename id := Except.ok.inj hsame
    refine ⟨(congrArg Job.description hsame).symm, ?_⟩
    simpa [Job.rename] using (congrArg Job.warnings hsame).symm
  · rw [hfailure, hfailure'] at hsame
    have hsame : failure.rename rename = failure'.rename id := Except.error.inj hsame
    simpa [CompileFailure.rename] using (congrArg CompileFailure.errors hsame).symm

/-- Under other ids and titles, and in another order of creation, the nodes make the same job. -/
theorem compile_of_outline_eq_moved :
    let rename : String → String := fun id => "node-" ++ id
    let base : ModelData := { ModelData.initial with
      selectedModel := some ⟨"base", "Base", "lab", .zero⟩ }
    let g : Graph := ⟨[⟨"x", .origin, 1, .initial .dataset⟩,
      ⟨"y", .origin, 2, .dataset { DatasetData.initial with storageId := some "file" }⟩,
      ⟨"m", .origin, 3, .model base⟩, ⟨"t", .origin, 4, .initial .training⟩],
      [⟨"e", "m", "t", "model-output", "training-input"⟩,
        ⟨"f", "x", "m", "dataset-output", "model-input"⟩,
        ⟨"g", "y", "m", "dataset-output", "model-input"⟩]⟩
    let g' : Graph := ⟨[⟨"node-x", .origin, 9, .dataset { DatasetData.initial with title := "X" }⟩,
      ⟨"node-y", .origin, 2, .dataset { DatasetData.initial with
        storageId := some "file"
        status := .ready }⟩,
      ⟨"node-m", .origin, 3, .model { base with isLocked := true }⟩,
      ⟨"node-t", .origin, 4, .initial .training⟩],
      [⟨"1", "node-m", "node-t", "model-output", "training-input"⟩,
        ⟨"2", "node-x", "node-m", "dataset-output", "model-input"⟩,
        ⟨"3", "node-y", "node-m", "dataset-output", "model-input"⟩]⟩
    ∃ job job', Set.InjOn rename {id | g.Mentions id} ∧ g'.outline id = g.outline rename ∧
      g.compile ⟨"job", "project", "me"⟩ "files/" = .ok job ∧
      g'.compile ⟨"job", "project", "me"⟩ "files/" = .ok job' ∧
      job'.description = job.description ∧
      job'.warnings = [.datasetMissingReference "node-x"] := by
  intro rename base g g'
  have hrename : Set.InjOn rename {id | g.Mentions id} := fun a _ b _ heq =>
    (String.append_right_inj _).mp heq
  have houtline : g'.outline id = g.outline rename := by decide
  obtain ⟨hiff, hok, -⟩ := compile_of_outline_eq hrename houtline ⟨"job", "project", "me"⟩ "files/"
  have hwarned : (g.compile ⟨"job", "project", "me"⟩ "files/").map (·.warnings) =
      .ok [.datasetMissingReference "x"] := by decide +kernel
  obtain ⟨job, hjob, hx⟩ := map_eq_ok_iff.mp hwarned
  obtain ⟨job', hjob'⟩ := hiff.mpr ⟨job, hjob⟩
  obtain ⟨hdescription, hwarnings⟩ := hok job job' hjob hjob'
  refine ⟨job, job', hrename, houtline, hjob, hjob', hdescription, ?_⟩
  rw [hwarnings, hx]
  rfl

end Graph

end FineTuning

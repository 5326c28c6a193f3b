import FineTuning.Job.Compile
import FineTuning.Proofs.Graph.TrainingPath
import FineTuning.Proofs.Job.Plan

/-!
# Outcomes of compilation

What compiling a graph gives, for each graph with distinct node ids, each context and each prefix.

* `errors_topology`, `warnings_topology`: what planning finds wrong with the nodes of the report.
* `compile_of_invalid`, `compile_of_faults`, `compile_of_no_faults`: the outcome for a graph without
  a path, with faults on its path, and without faults.
* `compile_outcome`: all of them, and which errors cannot occur.
-/

namespace FineTuning

/-- The blank fields of a context. -/
def JobContext.emptyFields (context : JobContext) : List CompileError :=
  faultUnless (Text.isBlankText context.trainingId = false) (.emptyField "training_id") ++
    faultUnless (Text.isBlankText context.projectName = false) (.emptyField "project_name") ++
    faultUnless (Text.isBlankText context.createdBy = false) (.emptyField "created_by")

theorem JobContext.blankFields_eq (context : JobContext) :
    context.blankFields = context.emptyFields := by
  simp only [blankFields, fields, List.filter_cons, List.filter_nil, emptyFields, faultUnless]
  cases Text.isBlankText context.trainingId <;> cases Text.isBlankText context.projectName <;>
    cases Text.isBlankText context.createdBy <;> rfl

/-- The error is not about what the nodes and the context say, but says that a node is missing, or
that nodes are not joined as those of a job are. -/
def CompileError.IsMisfit : CompileError → Prop
  | .topology _ | .nodeMissing _ | .danglingEdge _ _ => True
  | _ => False

theorem JobContext.not_isMisfit_of_mem_emptyFields (context : JobContext) {error : CompileError}
    (h : error ∈ context.emptyFields) : ¬error.IsMisfit := by
  simp only [emptyFields, List.mem_append, or_assoc] at h
  rcases h with h | h | h <;> rw [eq_of_mem_faultUnless h] <;> exact id

namespace Graph

/-- The report names the training node and the model, which have these data. -/
structure HasJob (g : Graph) (t : Node) (training : TrainingData) (m : Node) (model : ModelData) :
    Prop where
  training_mem : t ∈ g.nodes
  training_data : t.data = .training training
  training_reported : g.topology.training = some t.id
  model_mem : m ∈ g.nodes
  model_data : m.data = .model model
  model_reported : g.topology.model = some m.id

/-- The datasets of the report, in the order of the graph. -/
def jobDatasets (g : Graph) : List Node :=
  g.nodes.filter (·.id ∈ g.topology.datasets)

/-- Everything that is wrong with the nodes of the report: that no dataset has content, that no
model is chosen, and the settings of the training node. -/
def jobFaults (g : Graph) (t : Node) (training : TrainingData) (m : Node) (model : ModelData) :
    List CompileError :=
  faultUnless (∃ node ∈ g.jobDatasets, node.HasContent) .noValidDatasets ++
    faultUnless model.HasSelection (.modelNotSelected m.id) ++
    training.faults t.id

/-- The datasets of the report without content. -/
def missingReferences (g : Graph) : List CompileError :=
  (g.jobDatasets.filter (¬·.HasContent)).map (.datasetMissingReference ·.id)

variable {g : Graph} {t m : Node} {training : TrainingData} {model : ModelData}
  {storagePrefix : String} {context : JobContext}

/-! ## The nodes of the report -/

theorem jobDatasets_eq (hg : g.nodeIds.Nodup) (h : g.IsTrainingPath t m) :
    g.jobDatasets = g.feeders m := by
  have hreported : ∀ id, id ∈ g.topology.datasets ↔ g.Feeds m id := by
    rw [topology_eq_valid hg h]
    exact (feeders_ids hg h).2.2
  refine List.filter_congr fun node _ => ?_
  rw [Bool.eq_iff_iff, decide_eq_true_iff, hreported, List.contains_iff_mem, mem_sources_iff]

theorem HasJob.isTrainingPath (hg : g.nodeIds.Nodup) (h : g.HasJob t training m model) :
    g.IsTrainingPath t m := by
  obtain ⟨t', m', hpath⟩ | ⟨errors, hbreaks⟩ := isTrainingPath_or_breaksFirst hg
  · have hreport := topology_eq_valid hg hpath
    have ht : t' = t := by
      refine eq_of_id_eq hg hpath.training.mem h.training_mem ?_
      simpa [hreport] using h.training_reported
    have hm : m' = m := by
      refine eq_of_id_eq hg hpath.mem h.model_mem ?_
      simpa [hreport] using h.model_reported
    rwa [ht, hm] at hpath
  · have htraining := h.training_reported
    rw [(topology_eq_invalid_iff hg).mpr hbreaks] at htraining
    cases htraining

theorem exists_hasJob (hg : g.nodeIds.Nodup) (h : g.topology.isValid = true) :
    ∃ t training m model, g.HasJob t training m model := by
  obtain ⟨t, m, hpath⟩ := (isValid_topology_iff hg).mp h
  have hreport := topology_eq_valid hg hpath
  have htraining := hpath.training.kind
  have hmodel := hpath.kind
  cases ht : t.data <;> simp only [Node.kind, NodeData.kind, ht, reduceCtorEq] at htraining
  cases hm : m.data <;> simp only [Node.kind, NodeData.kind, hm, reduceCtorEq] at hmodel
  exact ⟨t, _, m, _, hpath.training.mem, ht, by rw [hreport], hpath.mem, hm, by rw [hreport]⟩

/-- The datasets of the report are found, and they are datasets. -/
theorem exists_data_of_mem_jobDatasets (hg : g.nodeIds.Nodup) (h : g.IsTrainingPath t m)
    {node : Node} (hnode : node ∈ g.jobDatasets) :
    g.node? node.id = some node ∧ ∃ data, node.data = .dataset data := by
  rw [jobDatasets_eq hg h, mem_feeders_iff] at hnode
  obtain ⟨hmem, hfeeds⟩ := hnode
  obtain ⟨other, hother, hid, hkind⟩ := h.datasets node.id hfeeds
  rw [eq_of_id_eq hg hother hmem hid] at hkind
  refine ⟨(node?_eq_some_iff hg).mpr ⟨hmem, rfl⟩, ?_⟩
  cases hdata : node.data <;> simp only [Node.kind, NodeData.kind, hdata, reduceCtorEq] at hkind
  exact ⟨_, rfl⟩

/-- What becomes of the datasets of the report. -/
theorem findings_topology (hg : g.nodeIds.Nodup) (h : g.IsTrainingPath t m)
    (storagePrefix : String) :
    g.topology.datasets.map (Plan.findDataset g storagePrefix) =
      g.jobDatasets.map fun node => Plan.findDataset g storagePrefix node.id := by
  rw [jobDatasets_eq hg h, topology_eq_valid hg h, List.map_map]
  rfl

/-! ## What planning finds -/

theorem warnings_topology (hg : g.nodeIds.Nodup) (h : g.IsTrainingPath t m)
    (storagePrefix : String) :
    Plan.warnings g g.topology storagePrefix = g.missingReferences := by
  rw [Plan.warnings, findings_topology hg h, missingReferences, List.filterMap_map,
    ← List.filterMap_eq_map, List.filterMap_filter]
  refine List.filterMap_congr fun node hnode => ?_
  obtain ⟨hfound, data, hdata⟩ := exists_data_of_mem_jobDatasets hg h hnode
  rw [Function.comp_apply, Plan.warning?_findDataset hfound hdata]
  by_cases hcontent : node.HasContent <;> simp [hcontent]

theorem plannedDatasets_ne_nil_iff (hg : g.nodeIds.Nodup) (h : g.IsTrainingPath t m)
    (storagePrefix : String) :
    Plan.plannedDatasets g g.topology storagePrefix ≠ [] ↔
      ∃ node ∈ g.jobDatasets, node.HasContent := by
  have husable : ∀ node ∈ g.jobDatasets,
      (Plan.findDataset g storagePrefix node.id).usable? = none ↔ ¬node.HasContent := by
    intro node hnode
    obtain ⟨hfound, data, hdata⟩ := exists_data_of_mem_jobDatasets hg h hnode
    rw [← Plan.isSome_usable?_findDataset hfound hdata, Option.not_isSome_iff_eq_none]
  rw [Plan.plannedDatasets, ne_eq, Plan.numberDatasets_eq_nil_iff, findings_topology hg h,
    List.filterMap_map, List.filterMap_eq_nil_iff, ← not_iff_not, not_not]
  constructor
  · rintro hnone ⟨node, hnode, hcontent⟩
    exact (husable node hnode).mp (hnone node hnode) hcontent
  · exact fun hnone node hnode =>
      (husable node hnode).mpr fun hcontent => hnone ⟨node, hnode, hcontent⟩

/-- Planning finds wrong what is wrong. -/
theorem errors_topology (hg : g.nodeIds.Nodup) (h : g.HasJob t training m model)
    (storagePrefix : String) :
    Plan.errors g g.topology storagePrefix = g.jobFaults t training m model := by
  have hpath := h.isTrainingPath hg
  have hdatasets : (g.topology.datasets.map (Plan.findDataset g storagePrefix)).filterMap
      (·.error?) = [] := by
    rw [findings_topology hg hpath, List.filterMap_map, List.filterMap_eq_nil_iff]
    intro node hnode
    obtain ⟨hfound, data, hdata⟩ := exists_data_of_mem_jobDatasets hg hpath hnode
    exact Plan.error?_findDataset hfound hdata
  have hm : g.node? m.id = some m := (node?_eq_some_iff hg).mpr ⟨h.model_mem, rfl⟩
  have ht : g.node? t.id = some t := (node?_eq_some_iff hg).mpr ⟨h.training_mem, rfl⟩
  rw [Plan.errors, hdatasets, h.model_reported, h.training_reported, Option.getD_some,
    Option.getD_some, Plan.errorsOf_planModel hm h.model_data,
    Plan.errorsOf_planTraining ht h.training_data, List.nil_append,
    faultUnless_congr (plannedDatasets_ne_nil_iff hg hpath storagePrefix), jobFaults]

/-! ## Outcomes -/

/-- An invalid graph is not compiled, and its report says why. -/
theorem compile_of_invalid (hg : g.nodeIds.Nodup) (h : g.topology.isValid = false) :
    g.topology.errors ≠ [] ∧
      g.compile context storagePrefix = .error ⟨g.topology.errors.map .topology⟩ := by
  constructor
  · obtain hpath | ⟨errors, hbreaks⟩ := isTrainingPath_or_breaksFirst hg
    · rw [(isValid_topology_iff hg).mpr hpath] at h
      cases h
    · rw [(topology_eq_invalid_iff hg).mpr hbreaks]
      exact hbreaks.ne_nil
  · rw [compile, plan, Plan.ofReport_of_invalid h]
    rfl

/-- Everything that is wrong is named, and then the datasets without content. -/
theorem compile_of_faults (hg : g.nodeIds.Nodup) (h : g.HasJob t training m model)
    (hfaults : g.jobFaults t training m model ≠ []) :
    g.compile context storagePrefix =
      .error ⟨g.jobFaults t training m model ++ g.missingReferences⟩ := by
  have hpath := h.isTrainingPath hg
  have hvalid := (isValid_topology_iff hg).mpr ⟨t, m, hpath⟩
  rw [← errors_topology hg h storagePrefix] at hfaults ⊢
  rw [compile, plan, Plan.ofReport_of_errors hvalid hfaults, warnings_topology hg hpath]
  rfl

/-- Otherwise there is a plan, and only blank fields of the context are in its way. -/
theorem compile_of_no_faults (hg : g.nodeIds.Nodup) (h : g.HasJob t training m model)
    (hfaults : g.jobFaults t training m model = []) (context : JobContext)
    (storagePrefix : String) :
    (context.emptyFields ≠ [] →
        g.compile context storagePrefix = .error ⟨context.emptyFields⟩) ∧
      (context.emptyFields = [] → ∃ job, g.compile context storagePrefix = .ok job) := by
  have hvalid := (isValid_topology_iff hg).mpr ⟨t, m, h.isTrainingPath hg⟩
  rw [← errors_topology hg h storagePrefix] at hfaults
  obtain ⟨plan, hplan⟩ := Plan.ofReport_of_no_errors hvalid hfaults
  obtain ⟨hloose, batchSize, hbatch⟩ := Plan.isClosed_of_ofReport hplan
  rw [compile, Graph.plan, hplan, ← JobContext.blankFields_eq]
  constructor
  · intro hblank
    have hdescription : JobDescription.faults plan context = context.blankFields := by
      simp [JobDescription.faults, Plan.batchSizeFault?, hbatch]
    have herror := JobDescription.ofPlan_of_faults (hdescription ▸ hblank)
    rw [hdescription] at herror
    rw [bind_eq_error_iff]
    exact .inr ⟨_, rfl, by simp [herror, bind, Except.bind]⟩
  · intro hblank
    have hok := JobDescription.ofPlan_eq_ok hblank hbatch hloose
    simp only [bind_eq_ok_iff]
    exact ⟨_, _, rfl, _, hok, rfl⟩

/-- The errors about a graph with a job are about what its nodes say. -/
theorem not_isMisfit_of_mem_jobFaults {error : CompileError}
    (h : error ∈ g.jobFaults t training m model) : ¬error.IsMisfit := by
  simp only [jobFaults, TrainingData.faults, List.mem_append, or_assoc] at h
  rcases h with h | h | h | h | h | h <;> rw [eq_of_mem_faultUnless h] <;> exact id

theorem not_isMisfit_of_mem_missingReferences {error : CompileError}
    (h : error ∈ g.missingReferences) : ¬error.IsMisfit := by
  obtain ⟨node, -, rfl⟩ := List.mem_map.mp h
  exact id

/-- **Compilation is exact.** An invalid graph gives the errors of its report. A valid one names a
training node and a model; if something is wrong with them or with the datasets, then all of it is
named in order, and after it the datasets without content. Otherwise the blank fields of the
context are named, and if there are none, then there is a job. So it never happens for a valid
graph that a node is missing, that an edge dangles or that a rule of the path is broken. -/
theorem compile_outcome (g : Graph) (hg : g.nodeIds.Nodup) (context : JobContext)
    (storagePrefix : String) :
    (g.topology.isValid = false → g.topology.errors ≠ [] ∧
        g.compile context storagePrefix = .error ⟨g.topology.errors.map .topology⟩) ∧
      (g.topology.isValid = true → ∃ t training m model, g.HasJob t training m model) ∧
      (∀ t training m model, g.HasJob t training m model →
        (g.jobFaults t training m model ≠ [] → g.compile context storagePrefix =
          .error ⟨g.jobFaults t training m model ++ g.missingReferences⟩) ∧
        (g.jobFaults t training m model = [] → context.emptyFields ≠ [] →
          g.compile context storagePrefix = .error ⟨context.emptyFields⟩) ∧
        (g.jobFaults t training m model = [] → context.emptyFields = [] →
          ∃ job, g.compile context storagePrefix = .ok job)) ∧
      (g.topology.isValid = true → ∀ errors, g.compile context storagePrefix = .error ⟨errors⟩ →
        ∀ error ∈ errors, ¬error.IsMisfit) := by
  refine ⟨compile_of_invalid hg, exists_hasJob hg, fun t training m model h => ?_,
    fun hvalid errors hcompile error herror => ?_⟩
  · refine ⟨compile_of_faults hg h, fun hfaults => ?_, fun hfaults => ?_⟩
    · exact (compile_of_no_faults hg h hfaults context storagePrefix).1
    · exact (compile_of_no_faults hg h hfaults context storagePrefix).2
  · obtain ⟨t, training, m, model, h⟩ := exists_hasJob hg hvalid
    by_cases hfaults : g.jobFaults t training m model = []
    · obtain ⟨hblank, hjob⟩ := compile_of_no_faults hg h hfaults context storagePrefix
      by_cases hempty : context.emptyFields = []
      · obtain ⟨job, hok⟩ := hjob hempty
        rw [hok] at hcompile
        cases hcompile
      · rw [hblank hempty] at hcompile
        cases hcompile
        exact context.not_isMisfit_of_mem_emptyFields herror
    · rw [compile_of_faults hg h hfaults] at hcompile
      cases hcompile
      obtain hfault | hmissing := List.mem_append.mp herror
      · exact not_isMisfit_of_mem_jobFaults hfault
      · exact not_isMisfit_of_mem_missingReferences hmissing

/-- A path of new nodes: no dataset has content, and no model is chosen. -/
theorem compile_outcome_line :
    let t : Node := ⟨"t", .origin, 1, .initial .training⟩
    let m : Node := ⟨"m", .origin, 2, .initial .model⟩
    let g : Graph := ⟨[t, m, ⟨"d", .origin, 3, .initial .dataset⟩],
      [⟨"e", "m", "t", "model-output", "training-input"⟩,
        ⟨"f", "d", "m", "dataset-output", "model-input"⟩]⟩
    g.nodeIds.Nodup ∧ g.HasJob t .initial m .initial ∧
      g.compile ⟨"job", "project", "me"⟩ "" =
        .error ⟨[.noValidDatasets, .modelNotSelected "m", .datasetMissingReference "d"]⟩ := by
  intro t m g
  have hnodup : g.nodeIds.Nodup := by decide
  have hjob : g.HasJob t .initial m .initial :=
    ⟨by decide, rfl, by decide, by decide, rfl, by decide⟩
  have hfaults : g.jobFaults t .initial m .initial = [.noValidDatasets, .modelNotSelected "m"] := by
    decide
  have hmissing : g.missingReferences = [.datasetMissingReference "d"] := by decide
  refine ⟨hnodup, hjob, ?_⟩
  have herror := ((compile_outcome g hnodup ⟨"job", "project", "me"⟩ "").2.2.1 _ _ _ _ hjob).1
    (by rw [hfaults]; exact List.cons_ne_nil _ _)
  rwa [hfaults, hmissing] at herror

end Graph

end FineTuning

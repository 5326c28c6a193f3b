import FineTuning.Proofs.Job.Outcome
import FineTuning.Proofs.Job.Symbols
import Mathlib.Data.List.Perm.Basic

/-!
# Jobs and the graphs that they come from

A job is the part of its graph that matters for training, under symbols of its own.
`Job.Reindexes` says what is kept of the graph and under which symbols.

* `of_compile_eq_ok`: what every job is made of.
* `map_nodeId_plannedDatasets_topology`: the datasets of a job are those of the report that have
  content.
* `map_ends_edges`: the edges of a job are those of the graph between nodes of the job.
* `compile_reindexes`: every job reindexes its graph.
-/

namespace FineTuning

/-! ## Content -/

/-- The URI of the content of a dataset: its URL if one is given, or else its storage id behind
the prefix. -/
inductive DatasetData.HasUri (data : DatasetData) (storagePrefix : String) : String → Prop
  | url {url : String} (hurl : data.contentUrl = some url)
    (hblank : Text.isBlankText url = false) :
    data.HasUri storagePrefix (Text.trim url)
  | storage {id : String} (hurl : ¬Text.IsGiven data.contentUrl) (hid : data.storageId = some id)
    (hblank : Text.isBlankText id = false) :
    data.HasUri storagePrefix (storagePrefix ++ Text.trim id)

theorem DatasetData.hasUri_of_contentReference? {data : DatasetData} {reference : ContentReference}
    (h : data.contentReference? = some reference) (storagePrefix : String) :
    data.HasUri storagePrefix (Plan.uriOf storagePrefix reference) := by
  unfold contentReference? at h
  split at h
  · rename_i trimmed hgiven
    cases h
    obtain ⟨url, hurl, htrim⟩ := Option.bind_eq_some_iff.mp hgiven
    obtain ⟨hblank, rfl⟩ := Text.nonBlank?_eq_some_iff.mp htrim
    exact .url hurl hblank
  · rename_i hnone
    obtain ⟨trimmed, hstorage, rfl⟩ := Option.map_eq_some_iff.mp h
    obtain ⟨id, hid, htrim⟩ := Option.bind_eq_some_iff.mp hstorage
    obtain ⟨hblank, rfl⟩ := Text.nonBlank?_eq_some_iff.mp htrim
    refine .storage (fun hgiven => ?_) hid hblank
    rw [← Text.isSome_bind_nonBlank?_iff, hnone] at hgiven
    cases hgiven

theorem Quantization.name_of_ofName?_eq_some {text : String} {quantization : Quantization}
    (h : ofName? text = some quantization) : quantization.name = text := by
  simpa using List.find?_some h

/-! ## Edges -/

namespace Plan

/-- **The edges of a plan are those of the graph between its nodes,** in the order of the graph and
each one as often as there. -/
theorem map_ends_edges {plan : Plan} {g : Graph} {report : TopologyReport} {storagePrefix : String}
    (h : plan.IsMadeOf g report storagePrefix) (hids : plan.nodeIds.Nodup) :
    plan.edges.map (fun planned => (some planned.source, some planned.target)) =
      (g.edges.filter fun e => (plan.symbolOf? e.source).isSome ∧
        (plan.symbolOf? e.target).isSome).map fun e =>
          (plan.symbolOf? e.source, plan.symbolOf? e.target) := by
  rw [h.edges, List.map_filterMap, ← List.filterMap_eq_map, List.filterMap_filter]
  refine List.filterMap_congr fun e _ => ?_
  rw [Function.comp_apply]
  cases hplanned : planEdge? (symbols plan.datasets plan.model plan.training) e with
  | some planned =>
    obtain ⟨hsource, htarget⟩ := (planEdge?_eq_some_iff hids).mp hplanned
    simp [hsource, htarget]
  | none =>
    -- Were there symbols for both ends, there would be an edge between them.
    have hnone : ¬((plan.symbolOf? e.source).isSome ∧ (plan.symbolOf? e.target).isSome) := by
      rintro ⟨hsource, htarget⟩
      obtain ⟨source, hsource⟩ := Option.isSome_iff_exists.mp hsource
      obtain ⟨target, htarget⟩ := Option.isSome_iff_exists.mp htarget
      have hsome : planEdge? (symbols plan.datasets plan.model plan.training) e =
          some ⟨source, target⟩ := (planEdge?_eq_some_iff hids).mpr ⟨hsource, htarget⟩
      rw [hplanned] at hsome
      cases hsome
    simp [hnone]

end Plan

/-! ## Jobs -/

/-- What a job keeps of its graph, and under which symbols. -/
structure Job.Reindexes (job : Job) (g : Graph) (storagePrefix : String) : Prop where
  /-- The datasets of the job and those that are warned about make up the datasets of the report,
  both in the order of the graph. -/
  datasets : ∃ left, job.warnings = left.map .datasetMissingReference ∧
    (job.plan.datasets.map (·.nodeId) ++ left).Perm g.topology.datasets ∧
    (job.plan.datasets.map (·.nodeId) ++ left).Nodup ∧
    (job.plan.datasets.map (·.nodeId)).Sublist g.nodeIds ∧ left.Sublist g.nodeIds
  /-- Each dataset goes by its number and has the URI of its content. -/
  dataset : ∀ i planned, job.plan.datasets[i]? = some planned →
    planned.symbol = s!"d{(i + 1).repr}" ∧
      ∃ node ∈ g.nodes, ∃ data, node.id = planned.nodeId ∧ node.data = .dataset data ∧
        data.HasUri storagePrefix planned.uri
  /-- The model of the report goes by `b1`. -/
  model : ∃ node ∈ g.nodes, ∃ data selected, g.topology.model = some node.id ∧
    node.data = .model data ∧ data.selectedModel = some selected ∧
    job.plan.model = ⟨"b1", node.id, Text.trim selected.id⟩
  /-- The training node of the report goes by `t1`. -/
  training : ∃ node ∈ g.nodes, ∃ data trainQuant downloadQuant,
    g.topology.training = some node.id ∧ node.data = .training data ∧
    trainQuant.name = data.quantization ∧ downloadQuant.name = data.downloadQuant ∧
    job.plan.training =
      ⟨"t1", node.id, data.epochs, Text.trim data.batchSize, trainQuant, downloadQuant⟩
  /-- Exactly the nodes of the job have a symbol. -/
  isSome_symbolOf? : ∀ id, (job.plan.symbolOf? id).isSome = true ↔
    id ∈ job.plan.datasets.map (·.nodeId) ++ [job.plan.model.nodeId, job.plan.training.nodeId]
  /-- The symbol of a node is the one that the job gives it. -/
  symbolOf? : ∀ id symbol, job.plan.symbolOf? id = some symbol ↔
    (id, symbol) ∈ Plan.symbols job.plan.datasets job.plan.model job.plan.training
  /-- Different nodes have different symbols. -/
  symbolOf?_injective : ∀ id id' symbol, job.plan.symbolOf? id = some symbol →
    job.plan.symbolOf? id' = some symbol → id = id'
  /-- The edges are those of the graph between nodes of the job. -/
  edges : job.plan.edges.map (fun planned => (some planned.source, some planned.target)) =
    (g.edges.filter fun e => (job.plan.symbolOf? e.source).isSome ∧
      (job.plan.symbolOf? e.target).isSome).map fun e =>
        (job.plan.symbolOf? e.source, job.plan.symbolOf? e.target)
  /-- The description has the symbols as its keys, in order. -/
  keys : job.description.schema.nodes.keys =
    (List.range job.plan.datasets.length).map (fun i => s!"d{(i + 1).repr}") ++ ["b1", "t1"]
  /-- The nodes of the description have the properties of those of the job. -/
  nodes : ∃ batchSize, Text.Numeral.uint32? (Text.trim job.plan.training.batchSize) =
      some batchSize ∧
    job.description.schema.nodes.entries =
      job.plan.datasets.map (fun d => ⟨d.symbol, .dataset, { uris := some [d.uri] }⟩) ++
        [⟨job.plan.model.symbol, .baseModel, { modelId := some job.plan.model.modelId }⟩,
          ⟨job.plan.training.symbol, .train, {
            epochs := some job.plan.training.epochs
            batchSize := some batchSize
            trainQuant := some job.plan.training.trainQuant
            downloadQuant := some job.plan.training.downloadQuant }⟩]
  /-- The description has the edges of the job. -/
  wireEdges : job.description.schema.edges = job.plan.edges

namespace Graph

variable {g : Graph} {context : JobContext} {storagePrefix : String} {job : Job} {t m : Node}

/-- A job is a plan with its description, made from a valid graph. -/
theorem of_compile_eq_ok (h : g.compile context storagePrefix = .ok job) :
    g.topology.isValid = true ∧ job.plan.IsMadeOf g g.topology storagePrefix ∧
      job.warnings = Plan.warnings g g.topology storagePrefix ∧
      ∃ batchSize, Plan.batchSizeOf? job.plan.training.batchSize = some batchSize ∧
        job.description = .assemble job.plan context batchSize := by
  obtain ⟨⟨plan, warned⟩, hplan, hjob⟩ := bind_eq_ok_iff.mp h
  obtain ⟨description, hdescription, hjob⟩ := bind_eq_ok_iff.mp hjob
  cases hjob
  obtain ⟨hvalid, hmade, hwarned⟩ := Plan.of_ofReport_eq_ok hplan
  exact ⟨hvalid, hmade, hwarned, JobDescription.of_ofPlan_eq_ok hdescription⟩

theorem topology_datasets_eq (hg : g.nodeIds.Nodup) (h : g.IsTrainingPath t m) :
    g.topology.datasets = g.jobDatasets.map (·.id) := by
  rw [jobDatasets_eq hg h, topology_eq_valid hg h]

/-- The datasets of a job are those of the report that have content. -/
theorem map_nodeId_plannedDatasets_topology (hg : g.nodeIds.Nodup) (h : g.IsTrainingPath t m)
    (storagePrefix : String) :
    (Plan.plannedDatasets g g.topology storagePrefix).map (·.nodeId) =
      (g.jobDatasets.filter (·.HasContent)).map (·.id) := by
  rw [Plan.map_nodeId_plannedDatasets, topology_datasets_eq hg h, List.filter_map]
  congr 1
  refine List.filter_congr fun node hnode => ?_
  obtain ⟨hfound, data, hdata⟩ := exists_data_of_mem_jobDatasets hg h hnode
  rw [Bool.eq_iff_iff, Function.comp_apply, Plan.isSome_usable?_findDataset hfound hdata,
    decide_eq_true_iff]

theorem nodup_topology_datasets (hg : g.nodeIds.Nodup) (h : g.IsTrainingPath t m) :
    g.topology.datasets.Nodup := by
  rw [topology_datasets_eq hg h]
  exact hg.sublist (List.filter_sublist.map _)

/-- The datasets of a job and those that are left out are the datasets of the report. -/
theorem datasets_perm (hg : g.nodeIds.Nodup) (h : g.IsTrainingPath t m) :
    ((g.jobDatasets.filter (·.HasContent)).map (·.id) ++
      (g.jobDatasets.filter (¬·.HasContent)).map (·.id)).Perm g.topology.datasets := by
  rw [topology_datasets_eq hg h, ← List.map_append]
  refine List.Perm.map _ ?_
  simpa only [decide_not] using
    List.filter_append_perm (fun node : Node => decide node.HasContent) g.jobDatasets

theorem jobDatasets_filter_sublist (g : Graph) (keep : Node → Bool) :
    ((g.jobDatasets.filter keep).map (·.id)).Sublist g.nodeIds :=
  (List.filter_sublist.trans List.filter_sublist).map _

section Made

variable {plan : Plan} (hg : g.nodeIds.Nodup) (h : g.IsTrainingPath t m)
  (hmade : plan.IsMadeOf g g.topology storagePrefix)
include hg h hmade

theorem model_nodeId_of_isMadeOf : plan.model.nodeId = m.id := by
  rw [Plan.model_nodeId_of_isMadeOf hmade, topology_eq_valid hg h, Option.getD_some]

theorem training_nodeId_of_isMadeOf : plan.training.nodeId = t.id := by
  rw [Plan.training_nodeId_of_isMadeOf hmade, topology_eq_valid hg h, Option.getD_some]

/-- The datasets of a plan feed the model. -/
theorem feeds_of_mem_plannedDatasets {planned : PlannedDataset}
    (hplanned : planned ∈ plan.datasets) : g.Feeds m planned.nodeId := by
  have hmem : planned.nodeId ∈ plan.datasets.map (·.nodeId) := List.mem_map_of_mem hplanned
  rw [hmade.datasets, Plan.map_nodeId_plannedDatasets, topology_eq_valid hg h] at hmem
  exact ((feeders_ids hg h).2.2 _).mp (List.mem_of_mem_filter hmem)

/-- The datasets of a plan and those that are warned about make up the datasets of the report. -/
theorem datasets_partition : ∃ left,
    Plan.warnings g g.topology storagePrefix = left.map .datasetMissingReference ∧
      (plan.datasets.map (·.nodeId) ++ left).Perm g.topology.datasets ∧
      (plan.datasets.map (·.nodeId) ++ left).Nodup ∧
      (plan.datasets.map (·.nodeId)).Sublist g.nodeIds ∧ left.Sublist g.nodeIds := by
  have hperm := datasets_perm hg h
  have hnodup := hperm.nodup_iff.mpr (nodup_topology_datasets hg h)
  have hkept : plan.datasets.map (·.nodeId) =
      (g.jobDatasets.filter (·.HasContent)).map (·.id) := by
    rw [hmade.datasets, map_nodeId_plannedDatasets_topology hg h]
  rw [← hkept] at hperm hnodup
  refine ⟨(g.jobDatasets.filter (¬·.HasContent)).map (·.id), ?_, hperm, hnodup, ?_,
    jobDatasets_filter_sublist g _⟩
  · rw [warnings_topology hg h, missingReferences, List.map_map]
    rfl
  · rw [hkept]
    exact jobDatasets_filter_sublist g _

end Made

/-- **Reindexing is faithful.** A job keeps the datasets of the report that have content, its model
and its training node, each one under its own symbol and with its own content, and the edges
between them; the other datasets are warned about. -/
theorem compile_reindexes (hg : g.nodeIds.Nodup)
    (h : g.compile context storagePrefix = .ok job) : job.Reindexes g storagePrefix := by
  obtain ⟨hvalid, hmade, hwarned, batchSize, hbatch, hdescription⟩ := of_compile_eq_ok h
  obtain ⟨t, m, hpath⟩ := (isValid_topology_iff hg).mp hvalid
  have hreport := topology_eq_valid hg hpath
  have hids := Plan.nodup_nodeIds hmade (nodup_topology_datasets hg hpath)
  have hentries : job.description.schema.nodes.entries = job.plan.wireNodes batchSize := by
    rw [hdescription]
    refine WireNodes.entries_ofList ?_
    rw [Plan.wireNodes_ids]
    exact Plan.nodup_symbolIds hmade
  refine
    { datasets := hwarned ▸ datasets_partition hg hpath hmade
      dataset := fun i planned hplanned => ?_
      model := ?_
      training := ?_
      isSome_symbolOf? := fun id => ?_
      symbolOf? := fun id symbol => Plan.symbolOf?_eq_some_iff hids
      symbolOf?_injective := fun id id' symbol => Plan.symbolOf?_injective hids hmade
      edges := Plan.map_ends_edges hmade hids
      keys := ?_
      nodes := ⟨batchSize, hbatch, hentries⟩
      wireEdges := by rw [hdescription]; rfl }
  · obtain ⟨hsymbol, node, data, reference, hnode, hdata, hreference, huri⟩ :=
      Plan.exists_dataset_of_isMadeOf hmade hplanned
    obtain ⟨hmem, hid⟩ := mem_of_node?_eq_some hnode
    exact ⟨hsymbol, node, hmem, data, hid, hdata, huri ▸
      DatasetData.hasUri_of_contentReference? hreference storagePrefix⟩
  · obtain ⟨node, data, selected, hnode, hdata, hselected, -, hplanned⟩ :=
      Plan.of_planModel_eq_ok hmade.model
    obtain ⟨hmem, hid⟩ := mem_of_node?_eq_some hnode
    exact ⟨node, hmem, data, selected, by rw [hid, hreport]; rfl, hdata, hselected, hplanned⟩
  · obtain ⟨node, data, trainQuant, downloadQuant, hnode, hdata, -, htrain, hdownload, hplanned⟩ :=
      Plan.of_planTraining_eq_ok hmade.training
    obtain ⟨hmem, hid⟩ := mem_of_node?_eq_some hnode
    exact ⟨node, hmem, data, trainQuant, downloadQuant, by rw [hid, hreport]; rfl, hdata,
      Quantization.name_of_ofName?_eq_some htrain, Quantization.name_of_ofName?_eq_some hdownload,
      hplanned⟩
  · rw [Plan.isSome_symbolOf?_iff hids, Plan.nodeIds_eq]
  · rw [WireNodes.keys, hentries, Plan.wireNodes_ids, Plan.symbolIds_of_isMadeOf hmade]
    rfl

/-- A dataset without content is passed over in the numbering, and an edge that is there twice is
kept twice. -/
theorem compile_reindexes_passed_over :
    let edges : List Edge := [⟨"e", "m", "t", "model-output", "training-input"⟩,
      ⟨"f", "x", "m", "dataset-output", "model-input"⟩,
      ⟨"g", "y", "m", "dataset-output", "model-input"⟩,
      ⟨"h", "y", "m", "dataset-output", "model-input"⟩]
    let g : Graph := ⟨[⟨"x", .origin, 1, .initial .dataset⟩,
      ⟨"y", .origin, 2, .dataset { DatasetData.initial with storageId := some " file " }⟩,
      ⟨"m", .origin, 3, .model { ModelData.initial with
        selectedModel := some ⟨"base", "Base", "lab", .zero⟩ }⟩,
      ⟨"t", .origin, 4, .initial .training⟩], edges⟩
    ∃ job, g.nodeIds.Nodup ∧ g.compile ⟨"job", "project", "me"⟩ "files/" = .ok job ∧
      job.plan.datasets = [⟨"d1", "y", "files/file"⟩] ∧ job.Reindexes g "files/" := by
  intro edges g
  have hnodup : g.nodeIds.Nodup := by decide
  have hdatasets : (g.compile ⟨"job", "project", "me"⟩ "files/").map (·.plan.datasets) =
      .ok [⟨"d1", "y", "files/file"⟩] := by decide +kernel
  obtain ⟨job, hjob, hplanned⟩ := map_eq_ok_iff.mp hdatasets
  exact ⟨job, hnodup, hjob, hplanned, compile_reindexes hnodup hjob⟩

end Graph

end FineTuning

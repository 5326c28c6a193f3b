import FineTuning.Proofs.Job.Reindexing
import FineTuning.Proofs.StoreRuns

/-!
# The shape of jobs

A plan keeps every edge of the graph between its nodes, whatever the handles of the edge. Where the
graph is well typed and has no parallel edges, only those of the training path are left: one edge
from each dataset to the model, and one from the model to the training node. The graphs of all runs
from a new store are such graphs.

* `nodup_edges`: without parallel edges in the graph, no edge of a plan is repeated.
* `mem_pathEdges_of_isWellTyped`, `pathEdges_subset_edges`: which edges a plan has.
* `run_compile_edges`: the edges of every job of a store.
-/

namespace FineTuning

namespace Plan

/-- An edge from each of so many datasets to the model, and one from there to the training node. -/
def pathEdges (count : Nat) : List PlannedEdge :=
  (List.range count).map (fun i => ⟨datasetSymbol i, modelSymbol⟩) ++
    [⟨modelSymbol, trainingSymbol⟩]

theorem length_pathEdges (count : Nat) : (pathEdges count).length = count + 1 := by
  simp [pathEdges]

theorem nodup_pathEdges (count : Nat) : (pathEdges count).Nodup := by
  refine List.nodup_append.mpr ⟨?_, List.nodup_singleton _, ?_⟩
  · refine List.Nodup.map (fun i j hij => ?_) List.nodup_range
    exact datasetSymbol_injective (congrArg PlannedEdge.source hij)
  · rintro _ hedge last hlast rfl
    obtain ⟨i, -, rfl⟩ := List.mem_map.mp hedge
    have hsource := congrArg PlannedEdge.source (List.mem_singleton.mp hlast)
    exact datasetSymbol_ne_modelSymbol i hsource

variable {plan : Plan} {g : Graph} {report : TopologyReport} {storagePrefix id symbol : String}

/-- The symbol of a node tells its kind. -/
theorem kind_of_symbolOf? (h : plan.IsMadeOf g report storagePrefix) (hids : plan.nodeIds.Nodup)
    (hsymbol : plan.symbolOf? id = some symbol) :
    (g.kindOf? id = some .dataset ∧ ∃ i < plan.datasets.length, symbol = datasetSymbol i) ∨
      (g.kindOf? id = some .model ∧ symbol = modelSymbol) ∨
      (g.kindOf? id = some .training ∧ symbol = trainingSymbol) := by
  rw [symbolOf?_eq_some_iff hids, symbols, List.mem_append] at hsymbol
  rcases hsymbol with hdataset | hother
  · obtain ⟨planned, hplanned, ⟨⟩⟩ := List.mem_map.mp hdataset
    obtain ⟨i, hi⟩ := List.mem_iff_getElem?.mp hplanned
    obtain ⟨hlt, -⟩ := List.getElem?_eq_some_iff.mp hi
    refine .inl ⟨kindOf?_dataset_of_isMadeOf h (List.mem_map_of_mem hplanned), i, hlt, ?_⟩
    exact (exists_dataset_of_isMadeOf h hi).1
  · rcases List.mem_pair.mp hother with hmodel | htraining
    · obtain ⟨rfl, rfl⟩ := Prod.mk.inj hmodel
      exact .inr (.inl ⟨kindOf?_model_of_isMadeOf h, model_symbol_of_isMadeOf h⟩)
    · obtain ⟨rfl, rfl⟩ := Prod.mk.inj htraining
      exact .inr (.inr ⟨kindOf?_training_of_isMadeOf h, training_symbol_of_isMadeOf h⟩)

theorem mem_edges_iff (h : plan.IsMadeOf g report storagePrefix) (hids : plan.nodeIds.Nodup)
    {planned : PlannedEdge} : planned ∈ plan.edges ↔ ∃ e ∈ g.edges,
      plan.symbolOf? e.source = some planned.source ∧
        plan.symbolOf? e.target = some planned.target := by
  simp only [h.edges, List.mem_filterMap, planEdge?_eq_some_iff hids]

/-- No edge of a plan is repeated, because different nodes have different symbols. -/
theorem nodup_edges (h : plan.IsMadeOf g report storagePrefix) (hids : plan.nodeIds.Nodup)
    (hparallel : g.HasNoParallelEdges) : plan.edges.Nodup := by
  rw [h.edges]
  refine List.Pairwise.filterMap _ (fun e f hends planned hplanned planned' hplanned' heq => ?_)
    hparallel
  obtain ⟨hsource, htarget⟩ := (planEdge?_eq_some_iff hids).mp hplanned
  obtain ⟨hsource', htarget'⟩ := (planEdge?_eq_some_iff hids).mp hplanned'
  rw [← heq] at hsource' htarget'
  exact hends ⟨symbolOf?_injective hids h hsource hsource',
    symbolOf?_injective hids h htarget htarget'⟩

/-- A well-typed edge between nodes of a plan is one of the path, because the plan has only one
model and only one training node. -/
theorem mem_pathEdges_of_isWellTyped (h : plan.IsMadeOf g report storagePrefix)
    (hids : plan.nodeIds.Nodup) (htyped : g.IsWellTyped) {planned : PlannedEdge}
    (hplanned : planned ∈ plan.edges) : planned ∈ pathEdges plan.datasets.length := by
  obtain ⟨e, he, hsource, htarget⟩ := (mem_edges_iff h hids).mp hplanned
  obtain ⟨source, target⟩ := planned
  have hsymbol := kind_of_symbolOf? h hids hsource
  have hsymbol' := kind_of_symbolOf? h hids htarget
  rw [pathEdges, List.mem_append, List.mem_map, List.mem_singleton]
  obtain ⟨hs, ht⟩ | ⟨hs, ht⟩ := Graph.kinds_of_isCompatible (htyped e he)
  · simp only [hs, Option.some.injEq, reduceCtorEq, true_and, false_and, or_false] at hsymbol
    simp only [ht, Option.some.injEq, reduceCtorEq, true_and, false_and, false_or, or_false]
      at hsymbol'
    obtain ⟨i, hi, rfl⟩ := hsymbol
    exact .inl ⟨i, List.mem_range.mpr hi, by rw [hsymbol']⟩
  · simp only [hs, Option.some.injEq, reduceCtorEq, true_and, false_and, false_or, or_false]
      at hsymbol
    simp only [ht, Option.some.injEq, reduceCtorEq, true_and, false_and, false_or] at hsymbol'
    exact .inr (by rw [hsymbol, hsymbol'])

end Plan

namespace Graph

variable {g : Graph} {context : JobContext} {storagePrefix : String} {job : Job} {t m : Node}

/-- The edges of the path are all there, because the model is fed by every dataset of the plan and
feeds the training node. -/
theorem pathEdges_subset_edges {plan : Plan} (hg : g.nodeIds.Nodup) (hpath : g.IsTrainingPath t m)
    (h : plan.IsMadeOf g g.topology storagePrefix) (hids : plan.nodeIds.Nodup) :
    Plan.pathEdges plan.datasets.length ⊆ plan.edges := by
  have hmodel : plan.symbolOf? m.id = some Plan.modelSymbol := by
    rw [← model_nodeId_of_isMadeOf hg hpath h, ← Plan.model_symbol_of_isMadeOf h,
      Plan.symbolOf?_eq_some_iff hids]
    simp [Plan.symbols]
  have htraining : plan.symbolOf? t.id = some Plan.trainingSymbol := by
    rw [← training_nodeId_of_isMadeOf hg hpath h, ← Plan.training_symbol_of_isMadeOf h,
      Plan.symbolOf?_eq_some_iff hids]
    simp [Plan.symbols]
  intro planned hplanned
  rw [Plan.mem_edges_iff h hids]
  rw [Plan.pathEdges, List.mem_append, List.mem_map, List.mem_singleton] at hplanned
  rcases hplanned with ⟨i, hi, rfl⟩ | rfl
  · have hdataset := List.getElem?_eq_getElem (List.mem_range.mp hi)
    have hsymbol := (Plan.exists_dataset_of_isMadeOf h hdataset).1
    have hmem := List.mem_of_getElem? hdataset
    obtain ⟨e, he, hends, hsource⟩ := feeds_of_mem_plannedDatasets hg hpath h hmem
    refine ⟨e, he, ?_, ?_⟩
    · rw [hsource, Plan.symbolOf?_eq_some_iff hids, ← hsymbol]
      exact List.mem_append_left _ (List.mem_map_of_mem hmem)
    · rw [Edge.target_of_endsAt hends, hmodel]
  · obtain ⟨e, he, hends, hsource⟩ := hpath.source.edge
    exact ⟨e, he, by rw [hsource, hmodel], by rw [Edge.target_of_endsAt hends, htraining]⟩

/-- In a well-typed graph without parallel edges, the edges of a job are those of the path. -/
theorem compile_edges_perm (hg : g.nodeIds.Nodup) (htyped : g.IsWellTyped)
    (hparallel : g.HasNoParallelEdges) (h : g.compile context storagePrefix = .ok job) :
    job.description.schema.edges.Perm (Plan.pathEdges job.plan.datasets.length) := by
  obtain ⟨hvalid, hmade, -, _, -, hdescription⟩ := of_compile_eq_ok h
  obtain ⟨t, m, hpath⟩ := (isValid_topology_iff hg).mp hvalid
  have hids := Plan.nodup_nodeIds hmade (nodup_topology_datasets hg hpath)
  have hedges : job.description.schema.edges = job.plan.edges := by
    rw [hdescription]
    rfl
  rw [hedges, List.perm_ext_iff_of_nodup (Plan.nodup_edges hmade hids hparallel)
    (Plan.nodup_pathEdges _)]
  intro planned
  exact ⟨fun hplanned => Plan.mem_pathEdges_of_isWellTyped hmade hids htyped hplanned,
    fun hplanned => pathEdges_subset_edges hg hpath hmade hids hplanned⟩

end Graph

namespace StoreHistory

/-- **The jobs of a store have only edges of the path.** Whatever was done with a store since it was
new, the description of a job of it has one edge from each of its datasets to the model and one
from the model to the training node, and no other. -/
theorem run_compile_edges (actions : List StoreAction) :
    ∃ h, (begin .empty).run actions = .ok h ∧
      ∀ context storagePrefix job, h.current.graph.compile context storagePrefix = .ok job →
        job.description.schema.edges.Perm
          ((List.range job.plan.datasets.length).map (fun i => ⟨s!"d{(i + 1).repr}", "b1"⟩) ++
            [⟨"b1", "t1"⟩]) ∧
        job.description.schema.edges.Nodup ∧
        job.description.schema.edges.length = job.plan.datasets.length + 1 := by
  obtain ⟨h, hrun, hsound⟩ := run_isSoundSince Store.isSound_empty actions
  refine ⟨h, hrun, fun context storagePrefix job hjob => ?_⟩
  have hperm := Graph.compile_edges_perm hsound.sound.integrity.nodup_nodeIds
    (hsound.wellTyped Graph.isWellTyped_empty)
    (hsound.noParallelEdges Graph.hasNoParallelEdges_empty) hjob
  refine ⟨hperm, ?_, ?_⟩
  · rw [hperm.nodup_iff]
    exact Plan.nodup_pathEdges _
  · rw [hperm.length_eq, Plan.length_pathEdges]

/-- A run in which the model is connected to a dataset twice, to itself and to the training node at
a wrong handle, all of which is refused, and to another dataset that is deleted and brought back. -/
theorem run_compile_edges_two :
    let file id : StoreAction := .edit (.updateNode id (.dataset { storageId := some id }))
    let feed id : StoreAction := .edit (.connect id "model-1" "dataset-output" "model-input")
    let train handle : StoreAction := .edit (.connect "model-1" "training-2" "model-output" handle)
    let actions := [.edit (.addNode .model .origin), .edit (.addNode .training .origin),
      .edit (.addNode .dataset .origin), .edit (.addNode .dataset .origin),
      .edit (.updateNode "model-1" (.model { selectedModel := some ⟨"base", "", "", .zero⟩ })),
      file "dataset-3", file "dataset-4", feed "dataset-4", feed "dataset-4", feed "model-1",
      train "model-input", train "training-input", feed "dataset-3",
      .edit (.deleteNode "dataset-3"), .restore 0, .reload]
    ∃ h job, (begin .empty).run actions = .ok h ∧
      h.current.graph.compile ⟨"job", "project", "me"⟩ "files/" = .ok job ∧
      job.description.schema.edges.Perm [⟨"d1", "b1"⟩, ⟨"d2", "b1"⟩, ⟨"b1", "t1"⟩] := by
  intro file feed train actions
  obtain ⟨h, hrun, hjobs⟩ := run_compile_edges actions
  have hcount : ((begin .empty).run actions).map (fun h =>
      (h.current.graph.compile ⟨"job", "project", "me"⟩ "files/").map (·.plan.datasets.length)) =
      .ok (.ok 2) := by decide +kernel
  rw [hrun] at hcount
  obtain ⟨job, hjob, hlength⟩ := map_eq_ok_iff.mp (Except.ok.inj hcount)
  have hperm := (hjobs _ _ _ hjob).1
  rw [hlength] at hperm
  exact ⟨h, job, hrun, hjob, hperm⟩

end StoreHistory

end FineTuning

import FineTuning.Job.Compile
import FineTuning.Proofs.Graph.Along
import FineTuning.Proofs.Job.Symbols

/-!
# Edits off the path of a job

Planning looks at no more of a graph than validation does, so a job depends only on the part of its
graph along the path.

* `Plan.ofReport_along`: a plan is made from the part along the path.
* `Graph.compile_along`: so is a job.
* `Store.compile_edit_of_isOffPath`: edits off the path change neither the report nor the job.
-/

namespace FineTuning

namespace Plan

variable {g : Graph} {path : TrainingPath} {plan : Plan} {storagePrefix : String}

/-! ## Planning along a path -/

theorem findsSame_along (g : Graph) (path : TrainingPath) :
    FindsSame (g.along path) g (.valid path) where
  datasets _ hid := Graph.node?_along (TrainingPath.dataset_mem hid)
  model := Graph.node?_along path.model_mem
  training := Graph.node?_along path.training_mem

theorem filterMap_planEdge?_along {symbols : List (String × String)}
    (hsymbols : ∀ entry ∈ symbols, entry.1 ∈ path.nodeIds) :
    (g.along path).edges.filterMap (planEdge? symbols) = g.edges.filterMap (planEdge? symbols) := by
  have hlast : ∀ {id}, id ∉ path.nodeIds → lastSymbol? symbols id = none := by
    intro id hid
    rw [lastSymbol?, Option.map_eq_none_iff, List.find?_eq_none]
    rintro entry hentry heq
    rw [beq_iff_eq] at heq
    exact hid (heq ▸ hsymbols entry (List.mem_reverse.mp hentry))
  rw [Graph.along, List.filterMap_filter]
  refine List.filterMap_congr fun e _ => ?_
  by_cases hon : e.source ∈ path.nodeIds ∧ e.target ∈ path.nodeIds
  · simp [hon]
  · -- An end off the path has no symbol, so the edge is not planned.
    have hnone : planEdge? symbols e = none := by
      rw [planEdge?, Option.bind_eq_bind]
      by_cases hsource : e.source ∈ path.nodeIds
      · rw [hlast fun htarget => hon ⟨hsource, htarget⟩]
        cases lastSymbol? symbols e.source <;> rfl
      · rw [hlast hsource]
        rfl
    simp [hon, hnone]

theorem keys_mem_of_isMadeOf (hmade : plan.IsMadeOf g (.valid path) storagePrefix) :
    ∀ entry ∈ symbols plan.datasets plan.model plan.training, entry.1 ∈ path.nodeIds := by
  intro entry hentry
  have hid := nodeIds_subset_report hmade (List.mem_map_of_mem hentry)
  rcases List.mem_append.mp hid with hid | hid
  · exact TrainingPath.dataset_mem hid
  · rcases List.mem_pair.mp hid with hid | hid
    · rw [hid]
      exact path.model_mem
    · rw [hid]
      exact path.training_mem

/-- A plan is made from the part along the path. -/
theorem ofReport_along (g : Graph) (path : TrainingPath) (storagePrefix : String) :
    ofReport (g.along path) (.valid path) storagePrefix =
      ofReport g (.valid path) storagePrefix := by
  rw [ofReport_of_findsSame (findsSame_along g path) rfl]
  cases hplan : ofReport g (.valid path) storagePrefix with
  | error failure => rfl
  | ok planned =>
    obtain ⟨-, hmade, -⟩ := of_ofReport_eq_ok hplan
    have hedges := filterMap_planEdge?_along (g := g) (keys_mem_of_isMadeOf hmade)
    rw [Except.map, withEdgesOf, hedges, ← hmade.edges]

end Plan

/-! ## Jobs along a path -/

namespace Graph

variable {g : Graph} {path : TrainingPath}

/-- **A job is made from the part along the path** that validation follows. -/
theorem compile_along (h : g.trainingPath = .ok path) (context : JobContext)
    (storagePrefix : String) :
    (g.along path).compile context storagePrefix = g.compile context storagePrefix := by
  have halong := (trainingPath_along_iff (isClosed_of_trainingPath h)).mpr h
  rw [compile, plan, topology_of_trainingPath halong, Plan.ofReport_along, compile, plan,
    topology_of_trainingPath h]

/-- Graphs with the same part along the path have the same report and the same job. -/
theorem AgreesAlong.compile_eq {g' : Graph} (hg : g'.AgreesAlong path g)
    (h : g.trainingPath = .ok path) :
    g'.topology = g.topology ∧ ∀ context storagePrefix,
      g'.compile context storagePrefix = g.compile context storagePrefix := by
  have hpath := hg.trainingPath_eq h
  refine ⟨by rw [topology_of_trainingPath hpath, topology_of_trainingPath h],
    fun context storagePrefix => ?_⟩
  rw [← compile_along hpath, hg.along, compile_along h]

end Graph

namespace Store

variable {s : Store} {edit : StoreEdit}

/-- **Edits off the path do not change the job.** While the graph of a store is valid, an edit off
the path of its report leaves the report and the result of compiling as they are. -/
theorem compile_edit_of_isOffPath (hvalid : s.graph.topology.isValid = true)
    (hedit : edit.IsOffPath s.graph.topology) :
    (s.edit edit).graph.topology = s.graph.topology ∧ ∀ context storagePrefix,
      (s.edit edit).graph.compile context storagePrefix =
        s.graph.compile context storagePrefix := by
  obtain ⟨path, hpath⟩ := Graph.exists_trainingPath_of_isValid hvalid
  rw [Graph.topology_of_trainingPath hpath] at hedit
  exact (agreesAlong_edit hpath hedit).compile_eq hpath

/-- Deleting another model that is fed by the same dataset. -/
theorem compile_edit_of_isOffPath_other_model :
    let s : Store := ⟨⟨[
      ⟨"x", .origin, 1, .dataset { DatasetData.initial with storageId := some "file" }⟩,
      ⟨"m", .origin, 2, .model { ModelData.initial with
        selectedModel := some ⟨"base", "Base", "lab", .zero⟩ }⟩,
      ⟨"other", .origin, 3, .initial .model⟩, ⟨"t", .origin, 4, .initial .training⟩],
      [⟨"e", "x", "other", "dataset-output", "model-input"⟩,
        ⟨"f", "x", "m", "dataset-output", "model-input"⟩,
        ⟨"g", "m", "t", "model-output", "training-input"⟩]⟩, 5, 5⟩
    let edit : StoreEdit := .deleteNode "other"
    s.graph.topology.isValid = true ∧ edit.IsOffPath s.graph.topology ∧
      (s.edit edit).graph.edges.length = 2 ∧
      ∃ job, s.graph.compile ⟨"job", "project", "me"⟩ "files/" = .ok job ∧
        (s.edit edit).graph.compile ⟨"job", "project", "me"⟩ "files/" = .ok job := by
  intro s edit
  have hvalid : s.graph.topology.isValid = true := by decide +kernel
  have hedit : edit.IsOffPath s.graph.topology := .deleteNode (by decide +kernel)
  have hdatasets : (s.graph.compile ⟨"job", "project", "me"⟩ "files/").map (·.plan.datasets) =
      .ok [⟨"d1", "x", "files/file"⟩] := by decide +kernel
  obtain ⟨job, hjob, -⟩ := map_eq_ok_iff.mp hdatasets
  refine ⟨hvalid, hedit, by decide +kernel, job, hjob, ?_⟩
  rw [(compile_edit_of_isOffPath hvalid hedit).2, hjob]

end Store

end FineTuning

import FineTuning.Job.Compile
import FineTuning.Proofs.Graph.TrainingPath
import FineTuning.Proofs.Job.Plan
import Mathlib.Data.List.Perm.Basic

/-!
# Edges in another order

Validation looks for the edges that end at a handle: it wants one, or takes the set of the nodes
where they begin. So the order of the edges shows only where several errors are listed, and in the
edges of the job; datasets are in the order of the nodes.

* `exactlyOne_of_perm`: the only element of a list is that of the list in another order.
* `Graph.trainingPath_of_reordersEdges`: the same path is followed.
* `Plan.ofReport_of_reordersEdges`, `JobDescription.ofPlan_of_reordersEdges`: the plan and the
  description, for any report and any plan.
* `Graph.compile_of_reordersEdges`: the report and the job.
-/

namespace FineTuning

/-! ## What is in another order -/

/-- The same graph with its edges in another order. -/
structure Graph.ReordersEdges (g' g : Graph) : Prop where
  nodes : g'.nodes = g.nodes
  edges : g'.edges.Perm g.edges

/-- The same report with its errors in another order. -/
structure TopologyReport.ReordersErrors (report' report : TopologyReport) : Prop where
  isValid : report'.isValid = report.isValid
  errors : report'.errors.Perm report.errors
  training : report'.training = report.training
  model : report'.model = report.model
  datasets : report'.datasets = report.datasets

/-- The same errors in another order. -/
def CompileFailure.ReordersErrors (failure' failure : CompileFailure) : Prop :=
  failure'.errors.Perm failure.errors

/-- The same plan with its edges in another order. -/
structure Plan.ReordersEdges (plan' plan : Plan) : Prop where
  datasets : plan'.datasets = plan.datasets
  model : plan'.model = plan.model
  training : plan'.training = plan.training
  edges : plan'.edges.Perm plan.edges

/-- The same description with its edges in another order. -/
structure JobDescription.ReordersEdges (description' description : JobDescription) : Prop where
  trainingId : description'.trainingId = description.trainingId
  projectName : description'.projectName = description.projectName
  version : description'.schema.version = description.schema.version
  createdBy : description'.schema.createdBy = description.schema.createdBy
  nodes : description'.schema.nodes = description.schema.nodes
  edges : description'.schema.edges.Perm description.schema.edges

/-- The same job with its edges in another order. -/
structure Job.ReordersEdges (job' job : Job) : Prop where
  plan : job'.plan.ReordersEdges job.plan
  description : job'.description.ReordersEdges job.description
  warnings : job'.warnings = job.warnings

/-! ## The path -/

/-- The only element of a list is that of the list in another order; there are none or so many in
both. -/
theorem exactlyOne_of_perm {α ε : Type} {none : ε} {many : Nat → ε} {l l' : List α}
    (h : l'.Perm l) : exactlyOne none many l' = exactlyOne none many l := by
  match l, l', h with
  | [], _, h => rw [h.eq_nil]
  | [x], _, h => rw [List.perm_singleton.mp h]
  | x :: y :: rest, l', h =>
    match l', h.length_eq with
    | _ :: _ :: _, hlength => simp only [exactlyOne, hlength]

namespace Graph

variable {g g' : Graph}

theorem nodup_nonDatasets (g : Graph) (m : Node) : (g.nonDatasets m).Nodup := by
  refine (pairwise_eraseDups_findIdx Edge.source (·.endsAt m.id .modelInput) g.edges _).imp ?_
  rintro id _ hlt rfl
  exact Nat.lt_irrefl _ hlt

namespace ReordersEdges

variable (h : g'.ReordersEdges g)
include h

theorem node?_eq (id : String) : g'.node? id = g.node? id := by
  rw [node?, h.nodes, node?]

theorem onlyTraining_eq : g'.onlyTraining = g.onlyTraining := by
  rw [onlyTraining, nodesOfKind, h.nodes, onlyTraining, nodesOfKind]

theorem modelAt_eq (id : String) : g'.modelAt id = g.modelAt id := by
  rw [modelAt, h.node?_eq, modelAt]

theorem onlyModelEdge_eq (id : String) : g'.onlyModelEdge id = g.onlyModelEdge id := by
  rw [Graph.onlyModelEdge_eq, Graph.onlyModelEdge_eq]
  exact exactlyOne_of_perm (h.edges.filter _)

theorem sources_perm (m : Node) :
    ((g'.incoming m.id .modelInput).map (·.source)).Perm
      ((g.incoming m.id .modelInput).map (·.source)) :=
  (h.edges.filter _).map _

theorem feeders_eq (m : Node) : g'.feeders m = g.feeders m := by
  rw [feeders, feeders, h.nodes]
  exact List.filter_congr fun node _ => (h.sources_perm m).contains_eq

/-- The non-datasets are the same, because each one is listed once. -/
theorem nonDatasets_perm (m : Node) : (g'.nonDatasets m).Perm (g.nonDatasets m) := by
  rw [List.perm_ext_iff_of_nodup (nodup_nonDatasets g' m) (nodup_nonDatasets g m)]
  intro id
  simp only [nonDatasets, kindOf?, h.node?_eq, List.mem_eraseDups, List.mem_filter,
    (h.sources_perm m).mem_iff]

theorem datasetsOf_alike (m : Node) :
    Alike List.Perm Eq (g'.datasetsOf m.id) (g.datasetsOf m.id) := by
  have hothers := h.nonDatasets_perm m
  rw [datasetsOf_eq, datasetsOf_eq, (h.sources_perm m).isEmpty_eq, hothers.isEmpty_eq,
    h.feeders_eq]
  split
  · exact .error (.refl _)
  · split
    · exact .ok rfl
    · exact .error (hothers.map _)

end ReordersEdges

/-- **The same path is followed,** or the same rule is broken by the same nodes. -/
theorem trainingPath_of_reordersEdges (h : g'.ReordersEdges g) :
    Alike List.Perm Eq g'.trainingPath g.trainingPath := by
  refine .bind (.of_eq List.Perm.refl h.onlyTraining_eq) ?_
  rintro training _ rfl
  refine .bind (.of_eq List.Perm.refl (h.onlyModelEdge_eq _)) ?_
  rintro edge _ rfl
  refine .bind (.of_eq List.Perm.refl (h.modelAt_eq _)) ?_
  rintro model _ rfl
  refine .bind (h.datasetsOf_alike model) ?_
  rintro datasets _ rfl
  exact .ok rfl

theorem topology_of_reordersEdges (h : g'.ReordersEdges g) :
    g'.topology.ReordersErrors g.topology := by
  have hpath := trainingPath_of_reordersEdges h
  rw [topology, topology]
  generalize g'.trainingPath = result', g.trainingPath = result at hpath
  cases hpath with
  | ok heq => rw [heq]; exact ⟨rfl, .refl _, rfl, rfl, rfl⟩
  | error hperm => exact ⟨rfl, hperm, rfl, rfl, rfl⟩

end Graph

/-! ## The plan -/

namespace Plan

variable {g g' : Graph} {report report' : TopologyReport} {plan plan' : Plan}
  {storagePrefix : String}

/-- **Planning finds the same,** whatever the report. -/
theorem ofReport_of_reordersEdges (h : g'.ReordersEdges g)
    (hreport : report'.ReordersErrors report) (storagePrefix : String) :
    Alike CompileFailure.ReordersErrors
      (fun planned' planned => planned'.1.ReordersEdges planned.1 ∧ planned'.2 = planned.2)
      (ofReport g' report' storagePrefix) (ofReport g report storagePrefix) := by
  cases hvalid : report.isValid with
  | false =>
    rw [ofReport_of_invalid hvalid, ofReport_of_invalid (hreport.isValid.trans hvalid)]
    exact .error (hreport.errors.map _)
  | true =>
    -- The errors of a valid report are not looked at.
    have hread : ofReport g' report' storagePrefix = ofReport g' report storagePrefix := by
      simp only [ofReport, hreport.isValid, hvalid, hreport.datasets, hreport.model,
        hreport.training, Bool.not_true, Bool.false_eq_true, ↓reduceIte]
    have hsame : FindsSame g' g report := ⟨fun id _ => h.node?_eq id, h.node?_eq _, h.node?_eq _⟩
    rw [hread, ofReport_of_findsSame hsame hvalid]
    cases hplan : ofReport g report storagePrefix with
    | error failure => exact .error (.refl _)
    | ok planned =>
      obtain ⟨-, hmade, -⟩ := of_ofReport_eq_ok hplan
      have hedges : (planned.1.withEdgesOf g').edges.Perm planned.1.edges := by
        rw [hmade.edges]
        exact h.edges.filterMap _
      exact .ok ⟨⟨rfl, rfl, rfl, hedges⟩, rfl⟩

theorem ReordersEdges.looseEdges_perm (h : plan'.ReordersEdges plan) :
    plan'.looseEdges.Perm plan.looseEdges := by
  have hids : plan'.symbolIds = plan.symbolIds := by
    rw [symbolIds, h.datasets, h.model, h.training, symbolIds]
  rw [looseEdges, looseEdges, hids]
  exact h.edges.filter _

end Plan

/-! ## The job -/

theorem JobDescription.assemble_of_reordersEdges {plan plan' : Plan} (h : plan'.ReordersEdges plan)
    (context : JobContext) (batchSize : UInt32) :
    (assemble plan' context batchSize).ReordersEdges (assemble plan context batchSize) where
  trainingId := rfl
  projectName := rfl
  version := rfl
  createdBy := rfl
  nodes := by
    show WireNodes.ofList (plan'.wireNodes batchSize) = WireNodes.ofList (plan.wireNodes batchSize)
    rw [Plan.wireNodes, h.datasets, h.model, h.training, Plan.wireNodes]
  edges := h.edges

/-- **Plans are described alike,** whether or not all of their edges have both ends. -/
theorem JobDescription.ofPlan_of_reordersEdges {plan plan' : Plan} (h : plan'.ReordersEdges plan)
    (context : JobContext) :
    Alike CompileFailure.ReordersErrors ReordersEdges (ofPlan plan' context)
      (ofPlan plan context) := by
  have hfaults : faults plan' context = faults plan context := by
    rw [faults, h.training, faults]
  have hloose := h.looseEdges_perm
  by_cases hnil : faults plan context = []
  · obtain ⟨hblank, batchSize, hbatch⟩ := faults_eq_nil_iff.mp hnil
    by_cases hclosed : plan.looseEdges = []
    · have hclosed' : plan'.looseEdges = [] := by
        rw [hclosed] at hloose
        exact hloose.eq_nil
      rw [ofPlan_eq_ok hblank hbatch hclosed, ofPlan_eq_ok hblank (h.training ▸ hbatch) hclosed']
      exact .ok (assemble_of_reordersEdges h context batchSize)
    · have hopen' : plan'.looseEdges ≠ [] := by
        intro hclosed'
        rw [hclosed'] at hloose
        exact hclosed hloose.nil_eq.symm
      rw [ofPlan_of_looseEdges hnil hclosed, ofPlan_of_looseEdges (hfaults.trans hnil) hopen']
      exact .error (hloose.map _)
  · rw [ofPlan_of_faults hnil, ofPlan_of_faults (hfaults.trans_ne hnil), hfaults]
    exact .error (.refl _)

namespace Graph

variable {g g' : Graph}

/-- **The order of the edges shows only in the edges of the job.** If a graph has the edges of
another one in another order, its report names the same nodes, and the same errors in some order. It
is compiled just when the other one is. Then the jobs have the same datasets, model, training node,
warnings and nodes, and their edges are the same in some order; otherwise the errors are. -/
theorem compile_of_reordersEdges (h : g'.ReordersEdges g) :
    g'.topology.ReordersErrors g.topology ∧ ∀ context storagePrefix,
      Alike CompileFailure.ReordersErrors Job.ReordersEdges
        (g'.compile context storagePrefix) (g.compile context storagePrefix) := by
  refine ⟨topology_of_reordersEdges h, fun context storagePrefix => ?_⟩
  refine .bind (Plan.ofReport_of_reordersEdges h (topology_of_reordersEdges h) storagePrefix) ?_
  rintro ⟨plan', _⟩ ⟨plan, warned⟩ ⟨hplan, rfl⟩
  refine .bind (JobDescription.ofPlan_of_reordersEdges hplan context) ?_
  intro description' description hdescription
  exact .ok ⟨hplan, hdescription, rfl⟩

/-- Two datasets are connected in the order that is not theirs in the graph. They keep their
numbers, and only their edges change places. -/
theorem compile_of_reordersEdges_two :
    let dataset id seq : Node :=
      ⟨id, .origin, seq, .dataset { DatasetData.initial with storageId := some id }⟩
    let feed id source : Edge := ⟨id, source, "m", "dataset-output", "model-input"⟩
    let train : Edge := ⟨"g", "m", "t", "model-output", "training-input"⟩
    let nodes : List Node := [dataset "x" 1, dataset "y" 2,
      ⟨"m", .origin, 3, .model { ModelData.initial with
        selectedModel := some ⟨"base", "Base", "lab", .zero⟩ }⟩,
      ⟨"t", .origin, 4, .initial .training⟩]
    let g : Graph := ⟨nodes, [feed "e" "x", feed "f" "y", train]⟩
    let g' : Graph := ⟨nodes, [train, feed "f" "y", feed "e" "x"]⟩
    g'.ReordersEdges g ∧ g'.topology = g.topology ∧
      ∃ job job', g.compile ⟨"job", "project", "me"⟩ "" = .ok job ∧
        g'.compile ⟨"job", "project", "me"⟩ "" = .ok job' ∧ job'.ReordersEdges job ∧
        job.plan.edges = [⟨"d1", "b1"⟩, ⟨"d2", "b1"⟩, ⟨"b1", "t1"⟩] ∧
        job'.plan.edges = [⟨"b1", "t1"⟩, ⟨"d2", "b1"⟩, ⟨"d1", "b1"⟩] := by
  intro dataset feed train nodes g g'
  have hg : g'.ReordersEdges g := ⟨rfl, by decide⟩
  have hedges : (g.compile ⟨"job", "project", "me"⟩ "").map (·.plan.edges) =
      .ok [⟨"d1", "b1"⟩, ⟨"d2", "b1"⟩, ⟨"b1", "t1"⟩] := by decide +kernel
  have hedges' : (g'.compile ⟨"job", "project", "me"⟩ "").map (·.plan.edges) =
      .ok [⟨"b1", "t1"⟩, ⟨"d2", "b1"⟩, ⟨"d1", "b1"⟩] := by decide +kernel
  obtain ⟨job, hjob, hplan⟩ := map_eq_ok_iff.mp hedges
  obtain ⟨job', hjob', hplan'⟩ := map_eq_ok_iff.mp hedges'
  have halike := (compile_of_reordersEdges hg).2 ⟨"job", "project", "me"⟩ ""
  rw [hjob, hjob'] at halike
  cases halike with
  | ok h => exact ⟨hg, by decide +kernel, job, job', hjob, hjob', h, hplan, hplan'⟩

end Graph

end FineTuning

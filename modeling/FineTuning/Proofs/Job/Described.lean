import FineTuning.Proofs.Job.Symbols

/-!
# Every plan can be described

A plan is made from a graph and a report, which need not fit together: the graph may repeat ids or
have edges that lead nowhere, and the report may name nodes at will. What planning lets through is
sound in itself all the same. Its symbols are distinct, because datasets are numbered anew and not
by what they are called; its edges are looked up among these symbols; and its batch size is a
number. So once there is a plan, only a blank field of the context is in the way of a description.

* `JobContext.blankFields_eq_nil_iff`: nothing is wrong with a context without blank fields.
* `JobDescription.entries_assemble`: where the symbols are distinct, no node is lost.
* `JobDescription.checkEdges_assemble`: where no edge is loose, the check of the edges passes.
* `Plan.of_ofReport_describable`: what every plan and its descriptions are like.
-/

namespace FineTuning

theorem JobContext.blankFields_eq_nil_iff {context : JobContext} :
    context.blankFields = [] ↔ ∀ field ∈ context.fields, Text.isBlankText field.2 = false := by
  simp only [blankFields, List.map_eq_nil_iff, List.filter_eq_nil_iff, Bool.not_eq_true]

namespace JobDescription

variable {plan : Plan}

/-- Nodes under distinct symbols are all there, in the order of the plan. -/
theorem entries_assemble (h : plan.symbolIds.Nodup) (context : JobContext) (batchSize : UInt32) :
    (assemble plan context batchSize).schema.nodes.entries = plan.wireNodes batchSize :=
  WireNodes.entries_ofList (by rwa [Plan.wireNodes_ids])

theorem keys_assemble (h : plan.symbolIds.Nodup) (context : JobContext) (batchSize : UInt32) :
    (assemble plan context batchSize).schema.nodes.keys = plan.symbolIds := by
  rw [WireNodes.keys, entries_assemble h, Plan.wireNodes_ids]

theorem size_assemble (h : plan.symbolIds.Nodup) (context : JobContext) (batchSize : UInt32) :
    (assemble plan context batchSize).schema.nodes.size = plan.datasets.length + 2 := by
  rw [WireNodes.size, entries_assemble h]
  simp [Plan.wireNodes]

/-- Edges between symbols of the plan pass the check. -/
theorem checkEdges_assemble (h : plan.looseEdges = []) (context : JobContext)
    (batchSize : UInt32) : (assemble plan context batchSize).checkEdges = .ok () := by
  rw [checkEdges, danglingEdges_assemble, h]
  rfl

end JobDescription

namespace Plan

/-- **What is planned can be described.** Whatever the graph and the report, the symbols of a plan
are distinct and its edges join them. In every context without blank fields there is a description
of the plan; it has a node for each dataset, one for the model and one for the training node, all
under the symbols of the plan, it has the edges of the plan, and its edges pass the check. -/
theorem of_ofReport_describable (g : Graph) (report : TopologyReport) (storagePrefix : String)
    {plan : Plan} {warned : List CompileError}
    (h : ofReport g report storagePrefix = .ok (plan, warned)) :
    plan.symbolIds.Nodup ∧
    (∀ e ∈ plan.edges, e.source ∈ plan.symbolIds ∧ e.target ∈ plan.symbolIds) ∧
    ∀ context : JobContext, (∀ field ∈ context.fields, Text.isBlankText field.2 = false) →
      ∃ description, JobDescription.ofPlan plan context = .ok description ∧
        description.schema.nodes.size = plan.datasets.length + 2 ∧
        description.schema.nodes.keys = plan.symbolIds ∧
        description.schema.edges = plan.edges ∧
        description.checkEdges = .ok () := by
  obtain ⟨-, hmade, -⟩ := of_ofReport_eq_ok h
  obtain ⟨hloose, batchSize, hbatch⟩ := isClosed_of_ofReport h
  have hsymbols : plan.symbolIds.Nodup := nodup_symbolIds hmade
  refine ⟨hsymbols, looseEdges_eq_nil_iff.mp hloose, fun context hcontext => ?_⟩
  have hblank : context.blankFields = [] := JobContext.blankFields_eq_nil_iff.mpr hcontext
  refine ⟨JobDescription.assemble plan context batchSize,
    JobDescription.ofPlan_eq_ok hblank hbatch hloose, ?_, ?_, rfl, ?_⟩
  · exact JobDescription.size_assemble hsymbols context batchSize
  · exact JobDescription.keys_assemble hsymbols context batchSize
  · exact JobDescription.checkEdges_assemble hloose context batchSize

/-- The id of the dataset is used by another node as well and an edge leads nowhere, while the
report names the dataset twice. It becomes two datasets of the plan, of which the edge leaves the
second. -/
theorem of_ofReport_describable_repeated :
    let filed : NodeData := .dataset { DatasetData.initial with storageId := some "file" }
    let chosen : NodeData :=
      .model { ModelData.initial with selectedModel := some ⟨"base", "", "", .zero⟩ }
    let g : Graph := ⟨[⟨"d", .origin, 1, filed⟩, ⟨"m", .origin, 2, chosen⟩,
        ⟨"t", .origin, 3, .initial .training⟩, ⟨"d", .origin, 4, .initial .model⟩],
      [⟨"e", "d", "m", "dataset-output", "model-input"⟩, ⟨"f", "d", "nowhere", "", ""⟩]⟩
    let report : TopologyReport := ⟨true, [], some "t", some "m", ["d", "d"]⟩
    ∃ plan description, ofReport g report "files/" = .ok (plan, []) ∧
      plan.symbolIds = ["d1", "d2", "b1", "t1"] ∧ plan.symbolIds.Nodup ∧
      plan.edges = [⟨"d2", "b1"⟩] ∧
      JobDescription.ofPlan plan ⟨"job", "project", "me"⟩ = .ok description ∧
      description.schema.nodes.keys = ["d1", "d2", "b1", "t1"] ∧
      description.checkEdges = .ok () := by
  intro filed chosen g report
  have houtcome : (ofReport g report "files/").map
      (fun made => (made.1.symbolIds, made.1.edges, made.2)) =
      .ok (["d1", "d2", "b1", "t1"], [⟨"d2", "b1"⟩], []) := by
    decide +kernel
  obtain ⟨⟨plan, warned⟩, hplan, hmade⟩ := map_eq_ok_iff.mp houtcome
  obtain ⟨hsymbols, hedges, rfl⟩ : plan.symbolIds = _ ∧ plan.edges = _ ∧ warned = [] := by
    simpa using hmade
  obtain ⟨hdistinct, -, hdescribed⟩ := of_ofReport_describable g report "files/" hplan
  obtain ⟨description, hdescription, -, hkeys, -, hcheck⟩ :=
    hdescribed ⟨"job", "project", "me"⟩ (by decide)
  exact ⟨plan, description, hplan, hsymbols, hdistinct, hedges, hdescription,
    hkeys.trans hsymbols, hcheck⟩

end Plan

end FineTuning

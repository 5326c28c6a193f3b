import FineTuning.Job.Description
import FineTuning.Proofs.Except

/-!
# Job descriptions of plans

When a plan can be put into the form of a description, and what is wrong when it cannot.

* `mem_keys_ofList`: the nodes that are inserted are the ones that are there.
* `entries_ofList`: with distinct ids, they are there in the order in which they were inserted.
* `danglingEdges_assemble`: an edge of the description dangles just when one of its ends is no
  symbol of the plan.
* `ofPlan_of_faults`, `ofPlan_of_looseEdges`, `ofPlan_eq_ok`: the three outcomes.
* `of_ofPlan_eq_ok`: what every description is put together from.
-/

namespace FineTuning

/-! ## Keys -/

namespace WireNodes

theorem contains_iff {nodes : WireNodes} {id : String} :
    nodes.contains id = true ↔ id ∈ nodes.keys := by
  simp [contains, get?, keys]

theorem mem_keys_insert {nodes : WireNodes} {node : WireNode} {id : String} :
    id ∈ (nodes.insert node).keys ↔ id ∈ nodes.keys ∨ id = node.id := by
  rw [keys_insert]
  split
  · rename_i h
    exact ⟨.inl, fun hid => hid.elim (fun hid => hid) fun hid => hid ▸ h⟩
  · rw [List.mem_append, List.mem_singleton]

theorem mem_keys_foldl_insert {inserted : List WireNode} {nodes : WireNodes} {id : String} :
    id ∈ (inserted.foldl insert nodes).keys ↔ id ∈ nodes.keys ∨ id ∈ inserted.map (·.id) := by
  induction inserted generalizing nodes with
  | nil => simp
  | cons node rest ih =>
    rw [List.foldl_cons, ih, mem_keys_insert, List.map_cons, List.mem_cons, or_assoc]

/-- The nodes that are inserted are the ones that are there. -/
theorem mem_keys_ofList {nodes : List WireNode} {id : String} :
    id ∈ (ofList nodes).keys ↔ id ∈ nodes.map (·.id) := by
  rw [ofList, mem_keys_foldl_insert]
  exact or_iff_right (List.not_mem_nil)

theorem insertInto_of_new {node : WireNode} {entries : List WireNode}
    (h : node.id ∉ entries.map (·.id)) : insertInto node entries = entries ++ [node] := by
  induction entries with
  | nil => rfl
  | cons entry rest ih =>
    rw [List.map_cons, List.mem_cons, not_or] at h
    rw [insertInto, if_neg (by simpa using Ne.symm h.1), ih h.2, List.cons_append]

theorem entries_foldl_insert {inserted : List WireNode} {nodes : WireNodes}
    (h : ((nodes.entries ++ inserted).map (·.id)).Nodup) :
    (inserted.foldl insert nodes).entries = nodes.entries ++ inserted := by
  induction inserted generalizing nodes with
  | nil => simp
  | cons node rest ih =>
    have hnew : node.id ∉ nodes.entries.map (·.id) := by
      rw [List.map_append, List.nodup_append] at h
      exact fun hmem => h.2.2 _ hmem _ (List.mem_cons_self ..) rfl
    have hentries : (nodes.insert node).entries = nodes.entries ++ [node] := insertInto_of_new hnew
    rw [List.foldl_cons, ih (by rwa [hentries, List.append_assoc]), hentries, List.append_assoc]
    rfl

/-- Nodes with distinct ids are all there, in the order in which they were inserted. -/
theorem entries_ofList {nodes : List WireNode} (h : (nodes.map (·.id)).Nodup) :
    (ofList nodes).entries = nodes := by
  rw [ofList, entries_foldl_insert]
  · rfl
  · exact h

end WireNodes

/-! ## Edges -/

namespace Plan

/-- The symbols of all nodes: of the datasets, the model and the training node. -/
def symbolIds (plan : Plan) : List String :=
  (symbols plan.datasets plan.model plan.training).map (·.2)

/-- The edges with an end that is no symbol. -/
def looseEdges (plan : Plan) : List PlannedEdge :=
  plan.edges.filter fun e => ¬(e.source ∈ plan.symbolIds ∧ e.target ∈ plan.symbolIds)

theorem looseEdges_eq_nil_iff {plan : Plan} :
    plan.looseEdges = [] ↔
      ∀ e ∈ plan.edges, e.source ∈ plan.symbolIds ∧ e.target ∈ plan.symbolIds := by
  simp only [looseEdges, List.filter_eq_nil_iff, decide_eq_true_eq, Decidable.not_not]

theorem wireNodes_ids (plan : Plan) (batchSize : UInt32) :
    (plan.wireNodes batchSize).map (·.id) = plan.symbolIds := by
  simp [wireNodes, symbolIds, symbols, datasetNode, modelNode, trainingNode, Function.comp_def]

end Plan

namespace JobDescription

variable {plan : Plan} {context : JobContext}

/-- An edge of the description dangles just when one of its ends is no symbol of the plan. -/
theorem danglingEdges_assemble (plan : Plan) (context : JobContext) (batchSize : UInt32) :
    (assemble plan context batchSize).schema.danglingEdges =
      plan.looseEdges.map fun e => .danglingEdge e.source e.target := by
  have hcontains : ∀ id, (WireNodes.ofList (plan.wireNodes batchSize)).contains id =
      decide (id ∈ plan.symbolIds) := by
    intro id
    rw [Bool.eq_iff_iff, WireNodes.contains_iff, WireNodes.mem_keys_ofList, Plan.wireNodes_ids,
      decide_eq_true_iff]
  simp only [NodeSchema.danglingEdges, assemble, hcontains, Plan.looseEdges, decide_not,
    Bool.decide_and]

/-! ## Outcomes -/

/-- What is wrong with the context, and with the batch size of the plan. -/
def faults (plan : Plan) (context : JobContext) : List CompileError :=
  context.blankFields ++ (Plan.batchSizeFault? plan.training.nodeId plan.training.batchSize).toList

theorem faults_eq_nil_iff :
    faults plan context = [] ↔ context.blankFields = [] ∧
      ∃ batchSize, Plan.batchSizeOf? plan.training.batchSize = some batchSize := by
  unfold faults Plan.batchSizeFault?
  rw [List.append_eq_nil_iff]
  refine and_congr_right fun _ => ?_
  cases Plan.batchSizeOf? plan.training.batchSize <;> simp

/-- What is wrong with the context or the batch size keeps the edges from being checked. -/
theorem ofPlan_of_faults (h : faults plan context ≠ []) :
    ofPlan plan context = .error ⟨faults plan context⟩ := by
  unfold ofPlan
  dsimp only
  split
  · rename_i hnil _
    exact absurd hnil h
  · rfl

theorem ofPlan_of_batchSize (hblank : context.blankFields = []) {batchSize : UInt32}
    (hbatch : Plan.batchSizeOf? plan.training.batchSize = some batchSize) :
    ofPlan plan context = do
      (assemble plan context batchSize).checkEdges
      return assemble plan context batchSize := by
  have hnil : faults plan context = [] := faults_eq_nil_iff.mpr ⟨hblank, _, hbatch⟩
  unfold faults at hnil
  simp only [ofPlan, hnil, hbatch]

theorem ofPlan_of_looseEdges (hfaults : faults plan context = []) (h : plan.looseEdges ≠ []) :
    ofPlan plan context =
      .error ⟨plan.looseEdges.map fun e => .danglingEdge e.source e.target⟩ := by
  obtain ⟨hblank, batchSize, hbatch⟩ := faults_eq_nil_iff.mp hfaults
  rw [ofPlan_of_batchSize hblank hbatch, bind_eq_error_iff, checkEdges, danglingEdges_assemble]
  left
  split
  · rename_i hnil
    exact absurd (List.map_eq_nil_iff.mp hnil) h
  · rfl

theorem ofPlan_eq_ok (hblank : context.blankFields = []) {batchSize : UInt32}
    (hbatch : Plan.batchSizeOf? plan.training.batchSize = some batchSize)
    (h : plan.looseEdges = []) :
    ofPlan plan context = .ok (assemble plan context batchSize) := by
  rw [ofPlan_of_batchSize hblank hbatch, checkEdges, danglingEdges_assemble, h]
  rfl

/-- A description is put together from the plan, with a number for the batch size. -/
theorem of_ofPlan_eq_ok {description : JobDescription}
    (h : ofPlan plan context = .ok description) :
    ∃ batchSize, Plan.batchSizeOf? plan.training.batchSize = some batchSize ∧
      description = assemble plan context batchSize := by
  unfold ofPlan at h
  dsimp only at h
  split at h
  · rename_i batchSize _ hbatch
    obtain ⟨-, -, hdescription⟩ := bind_eq_ok_iff.mp h
    cases hdescription
    exact ⟨batchSize, hbatch, rfl⟩
  · cases h

end JobDescription

end FineTuning

import FineTuning.Proofs.Graph.StoreEdits
import FineTuning.Proofs.Graph.TrainingPath
import Mathlib.Data.List.Find

/-!
# Graphs along a path

Validation looks at little of a graph. Where nothing off a path takes part in the training, all that
it sees is the part of the graph along the path; what is done to the rest is done unseen.

* `Graph.isClosed_of_trainingPath`: nothing off the path that is followed takes part.
* `Graph.trainingPath_along_iff`: validation follows a closed path in the graph just when it does so
  in the part along the path.
* `Store.agreesAlong_edit`: edits off the path leave the part along the path as it is.
-/

namespace FineTuning

/-- The ids of the nodes on the path. -/
def TrainingPath.nodeIds (path : TrainingPath) : List String :=
  path.training.id :: path.model.id :: path.datasets.map (·.id)

/-- The ids of the nodes that the report names. -/
def TopologyReport.nodeIds (report : TopologyReport) : List String :=
  report.training.toList ++ report.model.toList ++ report.datasets

/-- The part of the graph along a path: the nodes of the path and the edges between them. -/
def Graph.along (g : Graph) (path : TrainingPath) : Graph where
  nodes := g.nodes.filter (·.id ∈ path.nodeIds)
  edges := g.edges.filter fun e => e.source ∈ path.nodeIds ∧ e.target ∈ path.nodeIds

/-- Nothing off the path takes part in the training: there are no other training nodes, and what
leads into its training node or its model begins on the path. -/
structure TrainingPath.IsClosed (path : TrainingPath) (g : Graph) : Prop where
  training : ∀ node ∈ g.nodes, node.kind = .training → node.id ∈ path.nodeIds
  modelEdges : ∀ e ∈ g.edges, e.endsAt path.training.id .trainingInput = true →
    e.source ∈ path.nodeIds
  datasetEdges : ∀ e ∈ g.edges, e.endsAt path.model.id .modelInput = true →
    e.source ∈ path.nodeIds

theorem TrainingPath.training_mem (path : TrainingPath) : path.training.id ∈ path.nodeIds :=
  List.mem_cons_self ..

theorem TrainingPath.model_mem (path : TrainingPath) : path.model.id ∈ path.nodeIds :=
  List.mem_cons_of_mem _ (List.mem_cons_self ..)

theorem TrainingPath.nodeIds_subset {path : TrainingPath} {g : Graph} (h : path.IsIn g) :
    path.nodeIds ⊆ g.nodeIds := by
  refine List.cons_subset.mpr ⟨Graph.id_mem_nodeIds h.training,
    List.cons_subset.mpr ⟨Graph.id_mem_nodeIds h.model, fun id hid => ?_⟩⟩
  obtain ⟨node, hnode, rfl⟩ := List.mem_map.mp hid
  exact Graph.id_mem_nodeIds (h.datasets node hnode)

theorem TrainingPath.dataset_mem {path : TrainingPath} {id : String}
    (h : id ∈ path.datasets.map (·.id)) : id ∈ path.nodeIds :=
  List.mem_cons_of_mem _ (List.mem_cons_of_mem _ h)

namespace Graph

variable {g : Graph} {path : TrainingPath} {id : String}

/-- Nothing off the path that is followed takes part in the training. -/
theorem isClosed_of_trainingPath (h : g.trainingPath = .ok path) : path.IsClosed g := by
  obtain ⟨ht, e, he, hm, hdatasets⟩ := trainingPath_eq_ok_iff_followed.mp h
  obtain ⟨hfeeders, hall⟩ := of_datasetsOf_eq_ok hdatasets
  refine ⟨fun node hnode hkind => ?_, fun other hother hends => ?_, fun other hother hends => ?_⟩
  · have honly : node ∈ g.nodesOfKind .training :=
      List.mem_filter.mpr ⟨hnode, beq_iff_eq.mpr hkind⟩
    rw [nodesOfKind_of_onlyTraining ht, List.mem_singleton] at honly
    rw [honly]
    exact path.training_mem
  · have honly : other ∈ g.incoming path.training.id .trainingInput :=
      List.mem_filter.mpr ⟨hother, hends⟩
    rw [incoming_of_onlyModelEdge he, List.mem_singleton] at honly
    rw [honly, ← (of_modelAt_eq_ok hm).2]
    exact path.model_mem
  · have hfeeds : g.Feeds path.model other.source := ⟨other, hother, hends, rfl⟩
    obtain ⟨node, hnode, hid⟩ := mem_nodeIds.mp (mem_nodeIds_of_kindOf? (hall _ hfeeds))
    refine TrainingPath.dataset_mem (List.mem_map.mpr ⟨node, ?_, hid⟩)
    rw [← hfeeders, mem_feeders_iff, hid]
    exact ⟨hnode, hfeeds⟩

/-! ## What is found along a path -/

theorem node?_along (hid : id ∈ path.nodeIds) : (g.along path).node? id = g.node? id := by
  simp only [node?, along, List.find?_filter]
  refine List.find?_congr fun node _ => ?_
  by_cases h : node.id = id
  · simp [h, hid]
  · simp [h]

theorem modelAt_along (hid : id ∈ path.nodeIds) : (g.along path).modelAt id = g.modelAt id := by
  rw [modelAt, node?_along hid, modelAt]

theorem incoming_along {handle : Handle} (hid : id ∈ path.nodeIds)
    (hsource : ∀ e ∈ g.edges, e.endsAt id handle = true → e.source ∈ path.nodeIds) :
    (g.along path).incoming id handle = g.incoming id handle := by
  simp only [incoming, along, List.filter_filter]
  refine List.filter_congr fun e he => ?_
  by_cases hends : e.endsAt id handle = true
  · have htarget : e.target ∈ path.nodeIds := Edge.target_of_endsAt hends ▸ hid
    simp [hends, hsource e he hends, htarget]
  · simp [hends]

section Closed

variable (hclosed : path.IsClosed g)
include hclosed

theorem onlyTraining_along : (g.along path).onlyTraining = g.onlyTraining := by
  have hnodes : (g.along path).nodesOfKind .training = g.nodesOfKind .training := by
    simp only [nodesOfKind, along, List.filter_filter]
    refine List.filter_congr fun node hnode => ?_
    by_cases hkind : node.kind = .training
    · simp [hkind, hclosed.training node hnode hkind]
    · simp [hkind]
  rw [onlyTraining, hnodes, onlyTraining]

theorem onlyModelEdge_along :
    (g.along path).onlyModelEdge path.training.id = g.onlyModelEdge path.training.id := by
  rw [onlyModelEdge, incoming_along path.training_mem hclosed.modelEdges, onlyModelEdge]

theorem datasetsOf_along :
    (g.along path).datasetsOf path.model.id = g.datasetsOf path.model.id := by
  have hincoming := incoming_along path.model_mem hclosed.datasetEdges
  have hsources : ∀ id ∈ (g.incoming path.model.id .modelInput).map (·.source),
      id ∈ path.nodeIds := by
    intro id hid
    obtain ⟨e, he, rfl⟩ := List.mem_map.mp hid
    exact hclosed.datasetEdges e (List.mem_of_mem_filter he) (List.mem_filter.mp he).2
  have hnon : (g.along path).nonDatasets path.model = g.nonDatasets path.model := by
    rw [nonDatasets, hincoming, nonDatasets]
    congr 1
    refine List.filter_congr fun id hid => ?_
    rw [kindOf?, node?_along (hsources id hid), kindOf?]
  have hfeeders : (g.along path).feeders path.model = g.feeders path.model := by
    rw [feeders, hincoming, feeders, along, List.filter_filter]
    refine List.filter_congr fun node _ => ?_
    by_cases hfeeds : node.id ∈ (g.incoming path.model.id .modelInput).map (·.source)
    · simp [hsources _ hfeeds]
    · simp [hfeeds]
  rw [datasetsOf_eq, datasetsOf_eq, hincoming, hnon, hfeeders]

/-- **Validation sees only the part along the path:** it follows a closed path just when it does so
along the path. -/
theorem trainingPath_along_iff :
    (g.along path).trainingPath = .ok path ↔ g.trainingPath = .ok path := by
  rw [trainingPath_eq_ok_iff_followed, trainingPath_eq_ok_iff_followed, onlyTraining_along hclosed,
    onlyModelEdge_along hclosed, datasetsOf_along hclosed]
  refine and_congr_right fun _ => exists_congr fun e => and_congr_right fun he => ?_
  obtain ⟨hmem, hends⟩ := of_onlyModelEdge_eq_ok he
  rw [modelAt_along (hclosed.modelEdges e hmem hends)]

end Closed

end Graph

/-! ## Edits off the path -/

/-- An edit off the path of a report: it adds a dataset or a model, changes or deletes a node that
the report does not name, adds an edge into such a node or deletes the edges between two nodes of
which the report does not name both. -/
inductive StoreEdit.IsOffPath (report : TopologyReport) : StoreEdit → Prop
  | addNode {kind : NodeKind} {position : Position} (hkind : kind = .dataset ∨ kind = .model) :
    IsOffPath report (.addNode kind position)
  | updateNode {id : String} {patch : NodePatch} (hid : id ∉ report.nodeIds) :
    IsOffPath report (.updateNode id patch)
  | deleteNode {id : String} (hid : id ∉ report.nodeIds) : IsOffPath report (.deleteNode id)
  | connect {source target sourceHandle targetHandle : String}
    (htarget : target ∉ report.nodeIds) :
    IsOffPath report (.connect source target sourceHandle targetHandle)
  | disconnect {source target : String}
    (hends : source ∉ report.nodeIds ∨ target ∉ report.nodeIds) :
    IsOffPath report (.disconnect (.byEnds source target))

/-- The one graph has the same part along the path as the other, and nothing else takes part. -/
structure Graph.AgreesAlong (path : TrainingPath) (g' g : Graph) : Prop where
  along : g'.along path = g.along path
  closed : path.IsClosed g'

theorem TrainingPath.IsClosed.mono {path : TrainingPath} {g g' : Graph} (h : path.IsClosed g)
    (hnodes : g'.nodes ⊆ g.nodes) (hedges : g'.edges ⊆ g.edges) : path.IsClosed g' where
  training node hnode := h.training node (hnodes hnode)
  modelEdges e he := h.modelEdges e (hedges he)
  datasetEdges e he := h.datasetEdges e (hedges he)

namespace Graph.AgreesAlong

variable {g : Graph} {path : TrainingPath} {id : String} (hclosed : path.IsClosed g)
include hclosed

theorem append_node {node : Node} (hid : node.id ∉ path.nodeIds) (hkind : node.kind ≠ .training) :
    AgreesAlong path { g with nodes := g.nodes ++ [node] } g where
  along := by simp [Graph.along, hid]
  closed := by
    refine ⟨fun other hother hother' => ?_, hclosed.modelEdges, hclosed.datasetEdges⟩
    rcases List.mem_append.mp hother with hother | hother
    · exact hclosed.training other hother hother'
    · rw [List.mem_singleton.mp hother] at hother'
      exact absurd hother' hkind

theorem setData {data : NodeData} (hid : id ∉ path.nodeIds) (hkind : data.kind ≠ .training) :
    AgreesAlong path (g.setData id data) g where
  along := by
    have hnodes : (g.setData id data).nodes.filter (·.id ∈ path.nodeIds) =
        g.nodes.filter (·.id ∈ path.nodeIds) :=
      filter_setFirst (fun _ => rfl) fun node hnode => decide_eq_false (hnode ▸ hid)
    rw [Graph.along, hnodes, Graph.along]
    rfl
  closed := by
    refine ⟨fun other hother hother' => ?_, hclosed.modelEdges, hclosed.datasetEdges⟩
    obtain hother | ⟨before, -, -, rfl⟩ := mem_of_mem_setFirst hother
    · exact hclosed.training other hother hother'
    · exact absurd hother' hkind

theorem delete_node (hid : id ∉ path.nodeIds) :
    AgreesAlong path ⟨g.nodes.eraseP (·.id == id), g.edges.filter (!·.touches id)⟩ g where
  along := by
    have hne : ∀ {x}, x ∈ path.nodeIds → x ≠ id := fun hx heq => hid (heq ▸ hx)
    have hnodes : (g.nodes.eraseP (·.id == id)).filter (·.id ∈ path.nodeIds) =
        g.nodes.filter (·.id ∈ path.nodeIds) :=
      filter_eraseP (fun node hnode => decide_eq_false (beq_iff_eq.mp hnode ▸ hid)) _
    simp only [Graph.along, hnodes, List.filter_filter, Graph.mk.injEq, true_and]
    refine List.filter_congr fun e _ => ?_
    by_cases hends : e.source ∈ path.nodeIds ∧ e.target ∈ path.nodeIds
    · simp [hends, Edge.touches, hne hends.1, hne hends.2]
    · simp [hends]
  closed := hclosed.mono List.eraseP_subset (List.filter_subset_self _)

theorem append_edge {e : Edge} (htarget : e.target ∉ path.nodeIds) :
    AgreesAlong path { g with edges := g.edges ++ [e] } g where
  along := by simp [Graph.along, htarget]
  closed := by
    refine ⟨hclosed.training, fun other hother hends => ?_, fun other hother hends => ?_⟩
    all_goals rcases List.mem_append.mp hother with hother | hother
    · exact hclosed.modelEdges other hother hends
    · rw [List.mem_singleton.mp hother] at hends
      exact absurd (Edge.target_of_endsAt hends ▸ path.training_mem) htarget
    · exact hclosed.datasetEdges other hother hends
    · rw [List.mem_singleton.mp hother] at hends
      exact absurd (Edge.target_of_endsAt hends ▸ path.model_mem) htarget

theorem filter_edges {keep : Edge → Bool}
    (hkeep : ∀ e ∈ g.edges, e.source ∈ path.nodeIds → e.target ∈ path.nodeIds → keep e = true) :
    AgreesAlong path { g with edges := g.edges.filter keep } g where
  along := by
    simp only [Graph.along, List.filter_filter, Graph.mk.injEq, true_and]
    refine List.filter_congr fun e he => ?_
    by_cases hends : e.source ∈ path.nodeIds ∧ e.target ∈ path.nodeIds
    · simp [hends, hkeep e he hends.1 hends.2]
    · simp [hends]
  closed := hclosed.mono (List.Subset.refl _) (List.filter_subset_self _)

end Graph.AgreesAlong

/-- The one graph has the path of the other. -/
theorem Graph.AgreesAlong.trainingPath_eq {g g' : Graph} {path : TrainingPath}
    (h : g'.AgreesAlong path g) (hpath : g.trainingPath = .ok path) :
    g'.trainingPath = .ok path := by
  rw [← trainingPath_along_iff h.closed, h.along,
    trainingPath_along_iff (isClosed_of_trainingPath hpath)]
  exact hpath

/-- **Edits off the path leave the part along the path as it is.** -/
theorem Store.agreesAlong_edit {s : Store} {path : TrainingPath} {edit : StoreEdit}
    (hpath : s.graph.trainingPath = .ok path) (hedit : edit.IsOffPath (.valid path)) :
    (s.edit edit).graph.AgreesAlong path s.graph := by
  have hclosed := Graph.isClosed_of_trainingPath hpath
  have hrefused : s.graph.AgreesAlong path s.graph := ⟨rfl, hclosed⟩
  cases hedit with
  | @addNode kind _ hkind =>
    refine Graph.AgreesAlong.append_node hclosed (fun hid => ?_) ?_
    · -- The new id is that of no node, and all nodes of the path are nodes of the graph.
      exact s.nextNumber_free kind
        (TrainingPath.nodeIds_subset (Graph.isIn_of_trainingPath_eq_ok hpath) hid)
    · rcases hkind with rfl | rfl <;> simp [Node.kind, NodeData.initial, NodeData.kind]
  | updateNode hid =>
    simp only [Store.edit, perform, updateNode]
    split
    · rename_i data h
      obtain ⟨node, hnode, hdata⟩ := Option.bind_eq_some_iff.mp h
      obtain ⟨hmem, rfl⟩ := Graph.mem_of_node?_eq_some hnode
      refine Graph.AgreesAlong.setData hclosed hid fun hkind => hid ?_
      rw [NodePatch.kind_of_applyTo? hdata] at hkind
      exact hclosed.training node hmem hkind
    · exact hrefused
  | deleteNode hid =>
    simp only [Store.edit, perform, deleteNode]
    split
    · exact Graph.AgreesAlong.delete_node hclosed hid
    · exact hrefused
  | connect htarget =>
    simp only [Store.edit, perform, connect]
    split
    · exact Graph.AgreesAlong.append_edge hclosed htarget
    · exact hrefused
  | disconnect hends =>
    rw [Store.graph_edit_disconnect]
    refine Graph.AgreesAlong.filter_edges hclosed fun e _ hsource htarget => ?_
    simp only [EdgeReference.names, Edge.connects, Bool.not_eq_true', Bool.and_eq_false_iff,
      beq_eq_false_iff_ne]
    rcases hends with hends | hends
    · exact .inl fun heq => hends (heq ▸ hsource)
    · exact .inr fun heq => hends (heq ▸ htarget)

end FineTuning

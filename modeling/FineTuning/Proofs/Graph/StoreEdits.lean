import FineTuning.Proofs.Graph.FreshIds

/-!
# Edits of a store

`StoreEdit` lists the edits of a store, and `Store.Change` says once what an edit can do, with
all that it has checked. Whatever every edit keeps is then shown by cases on the change:

* `Store.IsSound`: the graph has integrity, and the next place in the order of creation comes
  after those of all nodes (`Change.isSound`).
* `Graph.HasDistinctEdgeIds`, `Graph.IsWellTyped` and `Graph.HasNoParallelEdges`: what a loaded
  graph may lack, but no edit takes away (`Change.hasDistinctEdgeIds` and the like).
-/

namespace FineTuning

/-- An edit of a store. -/
inductive StoreEdit where
  | addNode (kind : NodeKind) (position : Position)
  | updateNode (id : String) (patch : NodePatch)
  | deleteNode (id : String)
  | connect (source : String) (target : String) (sourceHandle : String) (targetHandle : String)
  | disconnect (reference : EdgeReference)
deriving DecidableEq

/-- A patch leaves the kind of the data as it is. -/
theorem NodePatch.kind_of_applyTo? {patch : NodePatch} {data data' : NodeData}
    (h : patch.applyTo? data = some data') : data'.kind = data.kind := by
  unfold applyTo? at h
  split at h
  · cases h; rfl
  · split at h
    · cases h
    · cases h; rfl
  · cases h; rfl
  · cases h

/-- The edges that are left with a node deleted are those that do not touch it. -/
theorem Edge.mem_filter_not_touches {e : Edge} {edges : List Edge} {id : String} :
    e ∈ edges.filter (!·.touches id) ↔ e ∈ edges ∧ e.source ≠ id ∧ e.target ≠ id := by
  simp only [List.mem_filter, touches, Bool.not_eq_true', Bool.or_eq_false_iff,
    beq_eq_false_iff_ne, ne_eq]

namespace Graph

/-- No two edges have the same id. -/
def HasDistinctEdgeIds (g : Graph) : Prop :=
  (g.edges.map (·.id)).Nodup

/-- Every edge joins two nodes that fit its handles. -/
def IsWellTyped (g : Graph) : Prop :=
  ∀ e ∈ g.edges, g.isCompatible e.source e.target e.sourceHandle e.targetHandle = true

/-- No two edges lead from the same node to the same node. -/
def HasNoParallelEdges (g : Graph) : Prop :=
  g.edges.Pairwise fun e f => ¬(e.source = f.source ∧ e.target = f.target)

/-- Two nodes are connected by an edge at whatever handles. -/
theorem isConnected_iff {g : Graph} {source target : String} :
    g.isConnected source target = true ↔ ∃ e ∈ g.edges, e.source = source ∧ e.target = target := by
  simp only [isConnected, List.any_eq_true, Edge.connects, Bool.and_eq_true, beq_iff_eq]

/-- Where no node has the id, no node goes with it. -/
theorem filter_id_ne_of_not_mem {g : Graph} {id : String} (hid : id ∉ g.nodeIds) :
    g.nodes.filter (·.id != id) = g.nodes :=
  List.filter_eq_self.mpr fun _ hnode => bne_iff_ne.mpr fun heq => hid (heq ▸ id_mem_nodeIds hnode)

/-- Where no node has the id, no edge goes with it. -/
theorem HasIntegrity.filter_not_touches_of_not_mem {g : Graph} (h : g.HasIntegrity) {id : String}
    (hid : id ∉ g.nodeIds) : g.edges.filter (!·.touches id) = g.edges := by
  refine List.filter_eq_self.mpr fun e he => ?_
  simp only [Edge.touches, Bool.not_eq_true', Bool.or_eq_false_iff, beq_eq_false_iff_ne]
  exact ⟨fun heq => hid (heq ▸ h.source_mem e he), fun heq => hid (heq ▸ h.target_mem e he)⟩

theorem hasDistinctEdgeIds_empty : Graph.empty.HasDistinctEdgeIds := List.nodup_nil

theorem isWellTyped_empty : Graph.empty.IsWellTyped := fun _ he => absurd he List.not_mem_nil

theorem hasNoParallelEdges_empty : Graph.empty.HasNoParallelEdges := List.Pairwise.nil

end Graph

namespace Store

/-- Carries out an edit, unless it is refused. -/
def perform (s : Store) : StoreEdit → Bool × Store
  | .addNode kind position => (true, (s.addNode kind position).2)
  | .updateNode id patch => s.updateNode id patch
  | .deleteNode id => s.deleteNode id
  | .connect source target sourceHandle targetHandle =>
    s.connect source target sourceHandle targetHandle
  | .disconnect reference => s.disconnect reference

/-- The store after an edit, be it carried out or refused. -/
def edit (s : Store) (edit : StoreEdit) : Store :=
  (s.perform edit).2

/-- A node that is there is deleted. -/
theorem deleteNode_of_mem {s : Store} {id : String} (hid : id ∈ s.graph.nodeIds) :
    s.deleteNode id = (true, { s with graph :=
      ⟨s.graph.nodes.eraseP (·.id == id), s.graph.edges.filter (!·.touches id)⟩ }) :=
  if_pos (Graph.hasNode_iff.mpr hid)

/-- A well-typed edge between nodes that are not connected is added. -/
theorem connect_of_new {s : Store} {source target sourceHandle targetHandle : String}
    (htyped : s.graph.isCompatible source target sourceHandle targetHandle = true)
    (hnew : s.graph.isConnected source target = false) :
    s.connect source target sourceHandle targetHandle = (true, { s with graph := { s.graph with
      edges := s.graph.edges ++
        [⟨s.nextEdgeId source target, source, target, sourceHandle, targetHandle⟩] } }) := by
  rw [connect, htyped, hnew]
  rfl

/-- An edit that is refused leaves the store as it is. -/
theorem edit_of_refused {s : Store} {edit : StoreEdit} (h : (s.perform edit).1 = false) :
    s.edit edit = s := by
  cases edit with
  | addNode kind position => cases h
  | updateNode id patch =>
    simp only [Store.edit, perform, updateNode] at h ⊢
    split at h
    · cases h
    · rfl
  | deleteNode id =>
    simp only [Store.edit, perform, deleteNode] at h ⊢
    split at h
    · cases h
    · rename_i hnone
      rw [if_neg hnone]
  | connect source target sourceHandle targetHandle =>
    simp only [Store.edit, perform, connect] at h ⊢
    split at h
    · cases h
    · rename_i hnone
      rw [if_neg hnone]
  | disconnect reference =>
    simp only [Store.edit, perform, disconnect] at h ⊢
    split at h
    · cases h
    · rename_i hnone
      rw [if_neg hnone]

/-- An update that is carried out sets the patched data. -/
theorem graph_edit_updateNode {s : Store} {id : String} {patch : NodePatch} {node : Node}
    (hnode : s.graph.node? id = some node) (hdone : (s.perform (.updateNode id patch)).1 = true) :
    ∃ data, patch.applyTo? node.data = some data ∧
      (s.edit (.updateNode id patch)).graph = s.graph.setData id data := by
  simp only [Store.edit, perform, updateNode, hnode, Option.bind_some] at hdone ⊢
  cases hdata : patch.applyTo? node.data with
  | none => rw [hdata] at hdone; cases hdone
  | some data => exact ⟨data, rfl, rfl⟩

theorem graph_edit_deleteNode {s : Store} {id : String}
    (hdone : (s.perform (.deleteNode id)).1 = true) :
    (s.edit (.deleteNode id)).graph =
      ⟨s.graph.nodes.eraseP (·.id == id), s.graph.edges.filter (!·.touches id)⟩ := by
  simp only [Store.edit, perform, deleteNode] at hdone ⊢
  split
  · rfl
  · rename_i hnone
    rw [if_neg hnone] at hdone
    cases hdone

/-- In a graph that has integrity, all that touches the id goes, even if no node has it. -/
theorem graph_edit_deleteNode_of_hasIntegrity {s : Store} (h : s.graph.HasIntegrity) (id : String) :
    (s.edit (.deleteNode id)).graph =
      ⟨s.graph.nodes.filter (·.id != id), s.graph.edges.filter (!·.touches id)⟩ := by
  simp only [Store.edit, perform, deleteNode]
  split
  · rw [Graph.eraseP_eq_filter h.nodup_nodeIds]
  · rename_i hnone
    have hid : id ∉ s.graph.nodeIds := mt Graph.hasNode_iff.mpr hnone
    rw [Graph.filter_id_ne_of_not_mem hid, h.filter_not_touches_of_not_mem hid]

theorem graph_edit_connect {s : Store} {source target sourceHandle targetHandle : String}
    (hdone : (s.perform (.connect source target sourceHandle targetHandle)).1 = true) :
    (s.edit (.connect source target sourceHandle targetHandle)).graph =
      { s.graph with edges := s.graph.edges ++
        [⟨s.nextEdgeId source target, source, target, sourceHandle, targetHandle⟩] } := by
  simp only [Store.edit, perform, connect] at hdone ⊢
  split
  · rfl
  · rename_i hnone
    rw [if_neg hnone] at hdone
    cases hdone

/-- The edges that are left are those that the reference does not name, and if it names none, all
of them. -/
theorem graph_edit_disconnect (s : Store) (reference : EdgeReference) :
    (s.edit (.disconnect reference)).graph =
      { s.graph with edges := s.graph.edges.filter (!reference.names ·) } := by
  simp only [Store.edit, perform, disconnect]
  split
  · rfl
  · rename_i hnone
    have hall : s.graph.edges.filter (!reference.names ·) = s.graph.edges := by
      refine List.filter_eq_self.mpr fun e he => ?_
      rw [List.any_eq_true, not_exists] at hnone
      simpa using fun hnamed => hnone e ⟨he, hnamed⟩
    rw [hall]

/-- What an edit can do to a store. -/
inductive Change (s : Store) : Store → Prop where
  | unchanged : Change s s
  | nodeAdded (kind : NodeKind) (position : Position) (number : Nat) (hnumber : s.nextNode ≤ number)
      (hfree : kind.nodeId number ∉ s.graph.nodeIds) :
      Change s ⟨{ s.graph with nodes := s.graph.nodes ++
        [⟨kind.nodeId number, position, s.nextSeq, .initial kind⟩] }, number + 1, s.nextSeq + 1⟩
  | nodeUpdated (node : Node) (patch : NodePatch) (data : NodeData)
      (hnode : s.graph.node? node.id = some node) (hdata : patch.applyTo? node.data = some data) :
      Change s { s with graph := s.graph.setData node.id data }
  | nodeDeleted (id : String) (hid : id ∈ s.graph.nodeIds) :
      Change s { s with graph :=
        ⟨s.graph.nodes.eraseP (·.id == id), s.graph.edges.filter (!·.touches id)⟩ }
  | edgeAdded (edge : Edge) (hfree : ∀ e ∈ s.graph.edges, e.id ≠ edge.id)
      (htyped : s.graph.isCompatible edge.source edge.target edge.sourceHandle edge.targetHandle =
        true)
      (hnew : s.graph.isConnected edge.source edge.target = false) :
      Change s { s with graph := { s.graph with edges := s.graph.edges ++ [edge] } }
  | edgesDeleted (reference : EdgeReference) :
      Change s { s with graph :=
        { s.graph with edges := s.graph.edges.filter (!reference.names ·) } }

/-- **Every edit is such a change.** -/
theorem change_edit (s : Store) (edit : StoreEdit) : s.Change (s.edit edit) := by
  cases edit with
  | addNode kind position =>
    exact .nodeAdded kind position _ (s.nextNode_le_nextNumber kind) (s.nextNumber_free kind)
  | updateNode id patch =>
    simp only [Store.edit, perform, updateNode]
    split
    · rename_i data h
      obtain ⟨node, hnode, hdata⟩ := Option.bind_eq_some_iff.mp h
      obtain rfl := (Graph.mem_of_node?_eq_some hnode).2
      exact .nodeUpdated node patch data hnode hdata
    · exact .unchanged
  | deleteNode id =>
    simp only [Store.edit, perform, deleteNode]
    split
    · rename_i h
      exact .nodeDeleted id (Graph.hasNode_iff.mp h)
    · exact .unchanged
  | connect source target sourceHandle targetHandle =>
    simp only [Store.edit, perform, connect]
    split
    · rename_i h
      simp only [Bool.and_eq_true, Bool.not_eq_true'] at h
      exact .edgeAdded _ (s.nextEdgeId_free source target) h.1 h.2
    · exact .unchanged
  | disconnect reference =>
    simp only [Store.edit, perform, disconnect]
    split
    · exact .edgesDeleted reference
    · exact .unchanged

/-! ## Soundness -/

/-- What holds of every store: its graph has integrity, and new nodes come after all others. -/
structure IsSound (s : Store) : Prop where
  integrity : s.graph.HasIntegrity
  createdSeq_lt : ∀ node ∈ s.graph.nodes, node.createdSeq < s.nextSeq

theorem isSound_empty : Store.empty.IsSound :=
  ⟨⟨List.nodup_nil, by simp [empty, Graph.empty], by simp [empty, Graph.empty]⟩,
    by simp [empty, Graph.empty]⟩

theorem createdSeq_lt_seqAfter {nodes : List Node} {node : Node} (h : node ∈ nodes) :
    node.createdSeq < seqAfter nodes := by
  have hmax : ∀ (seqs : List Nat) (start : Nat),
      start ≤ seqs.foldl max start ∧ ∀ n ∈ seqs, n ≤ seqs.foldl max start := by
    intro seqs
    induction seqs with
    | nil => simp
    | cons seq rest ih =>
      intro start
      obtain ⟨hstart, hrest⟩ := ih (max start seq)
      refine ⟨by simp only [List.foldl_cons]; omega, fun n hn => ?_⟩
      rcases List.mem_cons.mp hn with rfl | hn
      · simp only [List.foldl_cons]; omega
      · exact hrest n hn
  exact Nat.lt_succ_of_le ((hmax _ 0).2 _ (List.mem_map_of_mem h))

/-- **Loading.** A graph with integrity makes a store, which is sound. -/
theorem exists_ofGraph {g : Graph} (h : g.HasIntegrity) :
    ∃ s, Store.ofGraph g = .ok s ∧ s.graph = g ∧ s.IsSound := by
  refine ⟨⟨g, g.nodes.length + 1, seqAfter g.nodes⟩, ?_, rfl, h,
    fun node hnode => createdSeq_lt_seqAfter hnode⟩
  unfold Store.ofGraph
  rw [(Graph.checkIntegrity_eq_ok_iff g).mpr h]
  rfl

/-- A graph that makes a store has integrity. -/
theorem integrity_of_ofGraph {g : Graph} {s : Store} (h : Store.ofGraph g = .ok s) :
    g.HasIntegrity := by
  unfold Store.ofGraph at h
  cases hcheck : g.checkIntegrity with
  | error fault => rw [hcheck] at h; cases h
  | ok => exact (Graph.checkIntegrity_eq_ok_iff g).mp hcheck

theorem graph_of_ofGraph {g : Graph} {s : Store} (h : Store.ofGraph g = .ok s) : s.graph = g := by
  obtain ⟨s', hs', hgraph, -⟩ := exists_ofGraph (integrity_of_ofGraph h)
  obtain rfl := Except.ok.inj (hs'.symm.trans h)
  exact hgraph

end Store

namespace Graph

theorem nodeIds_append (g : Graph) (node : Node) :
    nodeIds { g with nodes := g.nodes ++ [node] } = g.nodeIds ++ [node.id] := by
  simp [nodeIds]

theorem nodup_nodeIds_append {g : Graph} {node : Node} (h : g.nodeIds.Nodup)
    (hfree : node.id ∉ g.nodeIds) :
    (nodeIds { g with nodes := g.nodes ++ [node] }).Nodup := by
  rw [nodeIds_append, List.nodup_append]
  refine ⟨h, by simp, ?_⟩
  intro id hid last hlast heq
  rw [List.mem_singleton] at hlast
  exact hfree (hlast ▸ heq ▸ hid)

end Graph

namespace Graph.HasIntegrity

variable {g : Graph} (h : g.HasIntegrity)

include h

theorem append_node {node : Node} (hfree : node.id ∉ g.nodeIds) :
    HasIntegrity { g with nodes := g.nodes ++ [node] } := by
  refine ⟨nodup_nodeIds_append h.nodup_nodeIds hfree, fun e he => ?_, fun e he => ?_⟩
  · rw [nodeIds_append]; exact List.mem_append_left _ (h.source_mem e he)
  · rw [nodeIds_append]; exact List.mem_append_left _ (h.target_mem e he)

theorem setData (id : String) (data : NodeData) : (g.setData id data).HasIntegrity := by
  refine ⟨?_, fun e he => ?_, fun e he => ?_⟩
  · rw [nodeIds_setData]; exact h.nodup_nodeIds
  · rw [nodeIds_setData]; exact h.source_mem e he
  · rw [nodeIds_setData]; exact h.target_mem e he

theorem delete_node (id : String) :
    HasIntegrity ⟨g.nodes.eraseP (·.id == id), g.edges.filter (!·.touches id)⟩ := by
  have hmem : ∀ {x}, x ∈ g.nodeIds → x ≠ id →
      x ∈ nodeIds ⟨g.nodes.eraseP (·.id == id), g.edges.filter (!·.touches id)⟩ := by
    intro x hx hne
    obtain ⟨node, hnode, rfl⟩ := mem_nodeIds.mp hx
    have hkept : node ∈ g.nodes.eraseP (·.id == id) :=
      (List.mem_eraseP_of_neg (by simpa using hne)).mpr hnode
    exact id_mem_nodeIds hkept
  refine ⟨h.nodup_nodeIds.sublist (List.eraseP_sublist.map _), fun e he => ?_, fun e he => ?_⟩
  · obtain ⟨he, hsource, -⟩ := Edge.mem_filter_not_touches.mp he
    exact hmem (h.source_mem e he) hsource
  · obtain ⟨he, -, htarget⟩ := Edge.mem_filter_not_touches.mp he
    exact hmem (h.target_mem e he) htarget

theorem append_edge {edge : Edge} (hs : edge.source ∈ g.nodeIds) (ht : edge.target ∈ g.nodeIds) :
    HasIntegrity { g with edges := g.edges ++ [edge] } := by
  refine ⟨h.nodup_nodeIds, fun e he => ?_, fun e he => ?_⟩
  all_goals
    rcases List.mem_append.mp he with he | he
  · exact h.source_mem e he
  · rw [List.mem_singleton.mp he]; exact hs
  · exact h.target_mem e he
  · rw [List.mem_singleton.mp he]; exact ht

theorem filter_edges (keep : Edge → Bool) :
    HasIntegrity { g with edges := g.edges.filter keep } :=
  ⟨h.nodup_nodeIds, fun e he => h.source_mem e (List.mem_of_mem_filter he),
    fun e he => h.target_mem e (List.mem_of_mem_filter he)⟩

end Graph.HasIntegrity

namespace Store.Change

variable {s s' : Store}

/-- Edits keep the integrity of the graph. -/
theorem hasIntegrity (hc : s.Change s') (h : s.graph.HasIntegrity) : s'.graph.HasIntegrity := by
  cases hc with
  | unchanged => exact h
  | nodeAdded kind position number _ hfree => exact h.append_node hfree
  | nodeUpdated node patch data _ _ => exact h.setData _ _
  | nodeDeleted id _ => exact h.delete_node id
  | edgeAdded edge _ htyped _ =>
    obtain ⟨hs, ht⟩ := Graph.ends_mem_of_isCompatible htyped
    exact h.append_edge hs ht
  | edgesDeleted reference => exact h.filter_edges _

/-- **Edits keep a store sound.** -/
theorem isSound (hc : s.Change s') (h : s.IsSound) : s'.IsSound := by
  refine ⟨hc.hasIntegrity h.integrity, ?_⟩
  cases hc with
  | unchanged | edgeAdded | edgesDeleted => exact h.createdSeq_lt
  | nodeAdded kind position number _ hfree =>
    intro node hnode
    rcases List.mem_append.mp hnode with hnode | hnode
    · exact Nat.lt_succ_of_lt (h.createdSeq_lt node hnode)
    · rw [List.mem_singleton.mp hnode]; exact Nat.lt_succ_self _
  | nodeUpdated node patch data _ _ =>
    intro other hother
    obtain hother | ⟨before, hbefore, -, rfl⟩ := Graph.mem_of_mem_setFirst hother
    · exact h.createdSeq_lt other hother
    · exact h.createdSeq_lt before hbefore
  | nodeDeleted id _ =>
    exact fun node hnode => h.createdSeq_lt node (List.mem_of_mem_eraseP hnode)

/-- Edits leave no two nodes with one id. -/
theorem nodup_nodeIds (hc : s.Change s') (h : s.graph.nodeIds.Nodup) :
    s'.graph.nodeIds.Nodup := by
  cases hc with
  | unchanged | edgeAdded | edgesDeleted => exact h
  | nodeAdded kind position number _ hfree => exact Graph.nodup_nodeIds_append h hfree
  | nodeUpdated node patch data => rwa [Graph.nodeIds_setData]
  | nodeDeleted id => exact h.sublist (List.eraseP_sublist.map _)

/-! ## What a loaded graph may lack -/

theorem hasDistinctEdgeIds (hc : s.Change s') (h : s.graph.HasDistinctEdgeIds) :
    s'.graph.HasDistinctEdgeIds := by
  cases hc with
  | unchanged => exact h
  | nodeAdded => exact h
  | nodeUpdated => exact h
  | nodeDeleted => exact List.Nodup.sublist (List.filter_sublist.map _) h
  | edgeAdded edge hfree _ _ =>
    show ((s.graph.edges ++ [edge]).map (·.id)).Nodup
    rw [List.map_append, List.nodup_append]
    refine ⟨h, by simp, ?_⟩
    intro id hid last hlast heq
    obtain ⟨e, he, rfl⟩ := List.mem_map.mp hid
    obtain rfl := List.mem_singleton.mp hlast
    exact hfree e he heq
  | edgesDeleted => exact List.Nodup.sublist (List.filter_sublist.map _) h

theorem hasNoParallelEdges (hc : s.Change s') (h : s.graph.HasNoParallelEdges) :
    s'.graph.HasNoParallelEdges := by
  cases hc with
  | unchanged => exact h
  | nodeAdded => exact h
  | nodeUpdated => exact h
  | nodeDeleted => exact List.Pairwise.sublist List.filter_sublist h
  | edgeAdded edge _ _ hnew =>
    refine List.pairwise_append.mpr ⟨h, List.pairwise_singleton _ _, ?_⟩
    intro e he last hlast heq
    obtain rfl := List.mem_singleton.mp hlast
    exact Bool.eq_false_iff.mp hnew (Graph.isConnected_iff.mpr ⟨e, he, heq⟩)
  | edgesDeleted => exact List.Pairwise.sublist List.filter_sublist h

theorem isWellTyped (hc : s.Change s') (h : s.graph.IsWellTyped) : s'.graph.IsWellTyped := by
  cases hc with
  | unchanged => exact h
  | nodeAdded kind position number _ _ =>
    intro e he
    obtain ⟨hs, ht⟩ := Graph.ends_mem_of_isCompatible (h e he)
    rw [Graph.isCompatible_congr (g := s.graph) (Graph.kindOf?_append_node hs)
      (Graph.kindOf?_append_node ht)]
    exact h e he
  | nodeUpdated node patch data hnode hdata =>
    intro e he
    have hkind := NodePatch.kind_of_applyTo? hdata
    rw [Graph.isCompatible_congr (Graph.kindOf?_setData hnode hkind _)
      (Graph.kindOf?_setData hnode hkind _)]
    exact h e he
  | nodeDeleted id _ =>
    intro e he
    obtain ⟨he, hsource, htarget⟩ := Edge.mem_filter_not_touches.mp he
    rw [Graph.isCompatible_congr (g := s.graph) (Graph.kindOf?_delete_node hsource)
      (Graph.kindOf?_delete_node htarget)]
    exact h e he
  | edgeAdded edge _ htyped _ =>
    intro e he
    rcases List.mem_append.mp he with he | he
    · exact h e he
    · rw [List.mem_singleton.mp he]; exact htyped
  | edgesDeleted reference => exact fun e he => h e (List.mem_of_mem_filter he)

end Store.Change

end FineTuning

import FineTuning.Proofs.StoreRuns

/-!
# Additions that are undone

What a store adds gets an id that nothing in the graph has or refers to. So deleting it by this id
takes nothing else along, whatever the ids of a loaded graph look like, and an edge can be deleted
by its ends as well, because there was none between them before.

* `Store.deleteNode_addNode`: a new node is deleted again.
* `Store.connect_iff`: when an edge is added.
* `Store.exists_connected`: a new edge is deleted again.
* `StoreHistory.run_undoesAdditions`: all this holds wherever a run has led.
-/

namespace FineTuning

namespace Store

variable {s : Store} {source target sourceHandle targetHandle : String}

/-! ## Nodes -/

/-- If no node had the id of the one that was added, deleting by this id gives back the graph. -/
theorem deleteNode_of_append (hg : s.graph.HasIntegrity) (node : Node) {after : Store}
    (hfree : node.id ∉ s.graph.nodeIds)
    (hafter : after.graph = { s.graph with nodes := s.graph.nodes ++ [node] }) :
    (after.deleteNode node.id).1 = true ∧ (after.deleteNode node.id).2.graph = s.graph := by
  have hadded : node.id ∈ after.graph.nodeIds := by
    rw [hafter, Graph.nodeIds_append]
    exact List.mem_append_right _ (List.mem_singleton_self _)
  have hnodes : after.graph.nodes.eraseP (·.id == node.id) = s.graph.nodes := by
    have hothers : ∀ n ∈ s.graph.nodes, ¬(n.id == node.id) = true := fun n hn hid =>
      hfree (beq_iff_eq.mp hid ▸ Graph.id_mem_nodeIds hn)
    rw [hafter, List.eraseP_append_right _ hothers]
    simp
  have hedges : after.graph.edges.filter (!·.touches node.id) = s.graph.edges := by
    rw [hafter]
    exact hg.filter_not_touches_of_not_mem hfree
  rw [deleteNode_of_mem hadded, hnodes, hedges]
  exact ⟨rfl, rfl⟩

/-- **A new node is deleted again** by the id that it was given, and nothing goes with it. -/
theorem deleteNode_addNode (hg : s.graph.HasIntegrity) (kind : NodeKind) (position : Position) :
    let (id, added) := s.addNode kind position
    (added.deleteNode id).1 = true ∧ (added.deleteNode id).2.graph = s.graph :=
  deleteNode_of_append hg ⟨_, position, s.nextSeq, .initial kind⟩ (s.nextNumber_free kind) rfl

/-! ## Edges -/

/-- An edge is added when it is well typed and the two nodes are not connected yet. -/
theorem connect_iff :
    (s.connect source target sourceHandle targetHandle).1 = true ↔
      s.graph.isCompatible source target sourceHandle targetHandle = true ∧
        ¬∃ e ∈ s.graph.edges, e.source = source ∧ e.target = target := by
  rw [← Graph.isConnected_iff, Bool.not_eq_true]
  unfold connect
  split
  · rename_i h
    simpa using h
  · rename_i h
    simpa using h

/-- If the reference names what was added last and no other edge, deleting gives back the store. -/
theorem disconnect_of_append {edge : Edge} {reference : EdgeReference}
    (hnamed : reference.names edge = true)
    (hothers : ∀ e ∈ s.graph.edges, reference.names e = false) :
    disconnect { s with graph := { s.graph with edges := s.graph.edges ++ [edge] } } reference =
      (true, s) := by
  have hkept : s.graph.edges.filter (!reference.names ·) = s.graph.edges :=
    List.filter_eq_self.mpr fun e he => by rw [hothers e he, Bool.not_false]
  have hleft : (s.graph.edges ++ [edge]).filter (!reference.names ·) = s.graph.edges := by
    rw [List.filter_append, hkept]
    simp [hnamed]
  have hany : (s.graph.edges ++ [edge]).any reference.names = true := by
    simp [hnamed]
  rw [disconnect, if_pos hany, hleft]

/-- **A new edge is deleted again,** by its id and by its ends alike, and nothing goes with it. -/
theorem exists_connected (h : (s.connect source target sourceHandle targetHandle).1 = true) :
    ∃ edge : Edge, edge.source = source ∧ edge.target = target ∧
      edge.sourceHandle = sourceHandle ∧ edge.targetHandle = targetHandle ∧
      (s.connect source target sourceHandle targetHandle).2 =
        { s with graph := { s.graph with edges := s.graph.edges ++ [edge] } } ∧
      (s.connect source target sourceHandle targetHandle).2.disconnect (.byId edge.id) =
        (true, s) ∧
      (s.connect source target sourceHandle targetHandle).2.disconnect (.byEnds source target) =
        (true, s) := by
  obtain ⟨htyped, hnew⟩ := connect_iff.mp h
  have hnew' : s.graph.isConnected source target = false := by
    rw [← Bool.not_eq_true, Graph.isConnected_iff]
    exact hnew
  have hadded : (s.connect source target sourceHandle targetHandle).2 = { s with graph :=
      { s.graph with edges := s.graph.edges ++
        [⟨s.nextEdgeId source target, source, target, sourceHandle, targetHandle⟩] } } :=
    congrArg Prod.snd (connect_of_new htyped hnew')
  refine ⟨_, rfl, rfl, rfl, rfl, hadded, ?_, ?_⟩
  · rw [hadded]
    refine disconnect_of_append (beq_self_eq_true _) fun e he => ?_
    exact beq_eq_false_iff_ne.mpr (s.nextEdgeId_free source target e he)
  · rw [hadded]
    refine disconnect_of_append (by simp [EdgeReference.names, Edge.connects]) fun e he => ?_
    rw [← Bool.not_eq_true]
    simp only [EdgeReference.names, Edge.connects, Bool.and_eq_true, beq_iff_eq]
    exact fun hends => hnew ⟨e, he, hends⟩

/-! ## Both -/

/-- What is added to the store can be deleted again, and nothing else is then different: not the
graph after a node, and not even the counters after an edge. -/
structure UndoesAdditions (s : Store) : Prop where
  /-- A node is added at the end, and deleted by its id. -/
  node : ∀ kind position,
    let (id, added) := s.addNode kind position
    (∃ node : Node, node.id = id ∧ node.kind = kind ∧ node.position = position ∧
      added.graph = { s.graph with nodes := s.graph.nodes ++ [node] }) ∧
    (added.deleteNode id).1 = true ∧ (added.deleteNode id).2.graph = s.graph
  /-- An edge is added when it is well typed and its ends are not connected yet. -/
  connected_iff : ∀ source target sourceHandle targetHandle,
    (s.connect source target sourceHandle targetHandle).1 = true ↔
      s.graph.isCompatible source target sourceHandle targetHandle = true ∧
        ¬∃ e ∈ s.graph.edges, e.source = source ∧ e.target = target
  /-- Otherwise nothing changes. -/
  refused : ∀ source target sourceHandle targetHandle,
    (s.connect source target sourceHandle targetHandle).1 = false →
      (s.connect source target sourceHandle targetHandle).2 = s
  /-- An edge is added at the end, and deleted by its id or by its ends. -/
  connected : ∀ source target sourceHandle targetHandle,
    (s.connect source target sourceHandle targetHandle).1 = true →
      ∃ edge : Edge, edge.source = source ∧ edge.target = target ∧
        edge.sourceHandle = sourceHandle ∧ edge.targetHandle = targetHandle ∧
        (s.connect source target sourceHandle targetHandle).2 =
          { s with graph := { s.graph with edges := s.graph.edges ++ [edge] } } ∧
        (s.connect source target sourceHandle targetHandle).2.disconnect (.byId edge.id) =
          (true, s) ∧
        (s.connect source target sourceHandle targetHandle).2.disconnect (.byEnds source target) =
          (true, s)

theorem undoesAdditions (hg : s.graph.HasIntegrity) : s.UndoesAdditions where
  node kind position := by
    refine ⟨⟨_, rfl, ?_, rfl, rfl⟩, deleteNode_addNode hg kind position⟩
    cases kind <;> rfl
  connected_iff _ _ _ _ := connect_iff
  refused source target sourceHandle targetHandle h := by
    have hrefused : (s.perform (.connect source target sourceHandle targetHandle)).1 = false := h
    exact edit_of_refused hrefused
  connected _ _ _ _ h := exists_connected h

end Store

namespace StoreHistory

/-- **Additions can be undone.** Wherever a run from a new or a loaded store has led, a node that is
added is deleted by the id that it was given, and the graph is as before. An edge is added just when
it is well typed and no edge leads between the two nodes yet; otherwise nothing changes. It can be
deleted by its id as well as by its ends, and the store is as before. -/
theorem run_undoesAdditions {start : Store} (hstart : start.IsStart) (actions : List StoreAction) :
    ∃ h, (begin start).run actions = .ok h ∧ h.current.UndoesAdditions := by
  obtain ⟨h, hrun, hsound⟩ := run_isSoundSince hstart.isSound actions
  exact ⟨h, hrun, Store.undoesAdditions hsound.sound.integrity⟩

/-- In a loaded graph, two edges have the id that a new edge between other nodes would get, and a
node has the id that a new model would get. Both are passed over, so that nothing else is deleted. -/
theorem run_undoesAdditions_taken :
    let feed id target : Edge := ⟨id, "d", target, "dataset-output", "model-input"⟩
    let g : Graph := ⟨[⟨"d", .origin, 1, .initial .dataset⟩, ⟨"m", .origin, 2, .initial .model⟩,
      ⟨"n", .origin, 3, .initial .model⟩, ⟨"model-5", .origin, 4, .initial .model⟩],
      [feed "edge-d-m" "n", feed "edge-d-m" "model-5"]⟩
    ∃ start, Store.ofGraph g = .ok start ∧ ∃ h, (begin start).run [.reload] = .ok h ∧
      h.current.UndoesAdditions ∧
      (h.current.addNode .model .origin).1 = "model-6" ∧
      (h.current.connect "d" "m" "dataset-output" "model-input").2.graph.edges =
        g.edges ++ [feed "edge-d-m-2" "m"] := by
  intro feed g
  obtain ⟨start, hstart⟩ : ∃ start, Store.ofGraph g = .ok start := ⟨_, rfl⟩
  obtain ⟨h, hrun, hundoes⟩ := run_undoesAdditions (.inr ⟨_, hstart⟩) [.reload]
  have hstore : start = ⟨g, 5, 5⟩ := by cases hstart; rfl
  subst hstore
  cases hrun
  exact ⟨_, hstart, _, rfl, hundoes, by decide, by decide⟩

end StoreHistory

end FineTuning

import FineTuning.Proofs.Assistant.Recovery
import FineTuning.Proofs.Assistant.SplitTurns

/-!
# Limits of graphs

An engine does not add a node to a graph that has as many as it may have, nor an edge. A graph that
had more to begin with, because it was loaded or because the limits are new, keeps what it has, and
may lose some of it and have it added again, but only up to the limits.

* `Engine.length_lt_of_resolveAddition`, `Engine.length_lt_of_resolveConnection`: what is added finds
  room.
* `Engine.Executed.keepsLimits`, `Engine.keepsLimits_executeAll`: requests and calls keep the limits.
* `Engine.mem_errors_runTurn`: what a call comes to at its place in a turn is what is reported.
* `Engine.runTurn_limits`: every part of a turn keeps the limits, and where one is reached, calls
  that would add to the graph fail for this reason.
-/

namespace FineTuning

theorem Graph.length_nodes_setData (g : Graph) (id : String) (data : NodeData) :
    (g.setData id data).nodes.length = g.nodes.length := by
  simpa [nodeIds] using congrArg List.length (nodeIds_setData g id data)

namespace Engine

variable {engine : Engine} {g g' g'' : Graph} {c c' : Conversation Store} {created : List String}

/-- The graph has no more nodes than the engine allows, or than it had before, and no more edges. -/
structure KeepsLimits (engine : Engine) (before after : Graph) : Prop where
  nodes : after.nodes.length ≤ max engine.maxNodes before.nodes.length
  edges : after.edges.length ≤ max engine.maxEdges before.edges.length

namespace KeepsLimits

theorem refl (engine : Engine) (g : Graph) : engine.KeepsLimits g g :=
  ⟨Nat.le_max_right _ _, Nat.le_max_right _ _⟩

theorem trans (h : engine.KeepsLimits g g') (h' : engine.KeepsLimits g' g'') :
    engine.KeepsLimits g g'' := by
  obtain ⟨hnodes, hedges⟩ := h
  obtain ⟨hnodes', hedges'⟩ := h'
  constructor <;> omega

/-- What has no more nodes and no more edges keeps all limits. -/
theorem of_le (hnodes : g'.nodes.length ≤ g.nodes.length)
    (hedges : g'.edges.length ≤ g.edges.length) : engine.KeepsLimits g g' :=
  ⟨le_max_of_le_right hnodes, le_max_of_le_right hedges⟩

end KeepsLimits

/-! ## Room for nodes and edges -/

/-- A node is only added where there is room for it. -/
theorem length_lt_of_resolveAddition {request : AddNodeRequest} {kind : NodeKind}
    (h : engine.resolveAddition g request = .ok kind) : g.nodes.length < engine.maxNodes := by
  obtain ⟨requested, -, h⟩ := bind_eq_ok_iff.mp h
  dsimp only at h
  split at h
  · cases h
  · split at h
    · cases h
    · rename_i hroom
      exact Nat.lt_of_not_le hroom

/-- Nothing else than the limit keeps a node of a known kind from being added at a finite position. -/
theorem resolveAddition_of_full {request : AddNodeRequest} {kind : NodeKind}
    (hkind : NodeKind.parse? request.kind = some kind)
    (hposition : request.position.isFinite = true) (hfull : engine.maxNodes ≤ g.nodes.length) :
    engine.resolveAddition g request = .error (.nodeLimitReached engine.maxNodes) := by
  have hresolve : resolveKind request.kind = .ok kind := by rw [resolveKind, hkind]
  rw [resolveAddition, hresolve, hposition]
  show (if engine.maxNodes ≤ g.nodes.length then _ else _) = _
  rw [if_pos hfull]
  rfl

/-- An edge is only added where there is room for it. -/
theorem length_lt_of_resolveConnection {request : ConnectRequest} {source target : String}
    (h : engine.resolveConnection g created request = .ok (source, target)) :
    g.edges.length < engine.maxEdges :=
  (resolveConnection_eq_ok_iff.mp h).1

/-! ## Calls -/

/-- **A request keeps the limits.** What is added has found room, and all else adds nothing. -/
theorem Executed.keepsLimits {request : ToolRequest} {result : ToolResult}
    (h : Executed engine c request result c') :
    engine.KeepsLimits c.editor.graph c'.editor.graph := by
  cases h with
  | failed | alreadyConnected => exact .refl engine _
  | nodeUpdated request id patch hresolve hdone =>
    obtain ⟨node, hnode, -⟩ := exists_of_resolveUpdate hresolve
    obtain ⟨data, -, hgraph⟩ := Store.graph_edit_updateNode hnode hdone
    rw [hgraph]
    exact .of_le (Nat.le_of_eq (Graph.length_nodes_setData _ id data)) (Nat.le_refl _)
  | nodeAdded request kind hresolve =>
    have hroom := length_lt_of_resolveAddition hresolve
    have hlength : (c.editor.edit (.addNode kind request.position)).graph.nodes.length =
        c.editor.graph.nodes.length + 1 := List.length_append
    refine ⟨?_, Nat.le_max_right _ _⟩
    rw [hlength]
    exact le_max_of_le_left hroom
  | nodeDeleted request id hresolve hdone =>
    rw [Store.graph_edit_deleteNode hdone]
    exact .of_le List.length_eraseP_le (List.length_filter_le _ _)
  | connected request source target hresolve hnew hdone =>
    have hroom := length_lt_of_resolveConnection hresolve
    rw [ConnectRequest.edit, Store.graph_edit_connect hdone]
    refine ⟨Nat.le_max_right _ _, ?_⟩
    rw [List.length_append, List.length_singleton]
    exact le_max_of_le_left hroom
  | disconnected request reference hresolve hdone =>
    rw [Store.graph_edit_disconnect]
    exact .of_le (Nat.le_refl _) (List.length_filter_le _ _)

theorem keepsLimits_executeCall (engine : Engine) (c : Conversation Store) (call : ToolCall) :
    engine.KeepsLimits c.editor.graph (engine.executeCall c call).2.editor.graph := by
  unfold executeCall
  split
  · exact (executed engine c _).keepsLimits
  · exact .refl engine _

/-- So do any number of calls, by induction on the list. -/
theorem keepsLimits_executeAll (engine : Engine) (c : Conversation Store) (calls : List ToolCall) :
    engine.KeepsLimits c.editor.graph (engine.executeAll c calls).2.editor.graph := by
  induction calls generalizing c with
  | nil => exact .refl engine _
  | cons call rest ih =>
    rw [executeAll_cons]
    exact (keepsLimits_executeCall engine c call).trans (ih _)

/-! ## Turns -/

/-- What a call comes to at its place in a turn is what is reported. -/
theorem mem_errors_runTurn {σ : Type} [GraphEditor σ] {engine : Engine} {c : Conversation σ}
    {earlier : List ToolCall} {call : ToolCall} {error : ToolError}
    (h : (engine.executeCall (engine.executeAll c earlier).2 call).1 = .error error)
    (later : List ToolCall) :
    ⟨earlier.length, call.toolName, error⟩ ∈
      (engine.runTurn c (earlier ++ call :: later)).1.errors := by
  have hlength : (engine.executeAll c earlier).1.length = earlier.length := by
    rw [← congrArg List.length (executeAll_calls engine earlier c), List.length_map]
  simp only [runTurn, TurnReport.ofResults, executeAll_append, executeAll_cons, failedCalls_append,
    h, failedCalls, Nat.zero_add, hlength]
  exact List.mem_append_right _ List.mem_cons_self

/-- **Limits hold throughout a turn.** After any part of a turn the graph has no more nodes than the
engine allows or than it had before the turn, and no more edges. At every place in the turn where
the graph has as many nodes as it may have, or more, a call to add one is reported to fail for this
reason, if it names a kind and a finite position; and where it has as many edges, any call to connect
nodes is. -/
theorem runTurn_limits (engine : Engine) (c : Conversation Store) (earlier later : List ToolCall) :
    let reached := (engine.runTurn c earlier).2.graph
    engine.KeepsLimits c.editor.graph reached ∧
    (∀ call request kind, ToolRequest.ofCall call = .ok (.addNode request) →
      NodeKind.parse? request.kind = some kind → request.position.isFinite = true →
      engine.maxNodes ≤ reached.nodes.length →
      ⟨earlier.length, call.toolName, .nodeLimitReached engine.maxNodes⟩ ∈
        (engine.runTurn c (earlier ++ call :: later)).1.errors) ∧
    (∀ call request, ToolRequest.ofCall call = .ok (.addConnection request) →
      engine.maxEdges ≤ reached.edges.length →
      ⟨earlier.length, call.toolName, .edgeLimitReached engine.maxEdges⟩ ∈
        (engine.runTurn c (earlier ++ call :: later)).1.errors) := by
  intro reached
  refine ⟨keepsLimits_executeAll engine c earlier, ?_, ?_⟩
  · intro call request kind hcall hkind hposition hfull
    refine mem_errors_runTurn ?_ later
    rw [executeCall_of_ofCall engine _ hcall]
    exact congrArg Prod.fst (addNode_of_error (resolveAddition_of_full hkind hposition hfull))
  · intro call request hcall hfull
    refine mem_errors_runTurn ?_ later
    rw [executeCall_of_ofCall engine _ hcall]
    exact congrArg Prod.fst (addConnection_of_error (resolveConnection_of_full engine hfull))

/-- A graph with more nodes than are allowed shrinks below the limit and grows again in one turn. Then
it can grow no more. -/
theorem runTurn_limits_regrown :
    let g : Graph := ⟨[⟨"d", .origin, 1, .initial .dataset⟩, ⟨"m", .origin, 2, .initial .model⟩,
      ⟨"t", .origin, 3, .initial .training⟩], [⟨"e", "d", "m", "dataset-output", "model-input"⟩]⟩
    let c : Conversation Store := ⟨⟨g, 4, 4⟩, []⟩
    let engine := Engine.ofConfig ⟨[]⟩ { Config.default with maxNodes := 2, maxEdges := 1 }
    let delete id : ToolCall := ⟨"deleteNode", .object [("nodeId", .string id)]⟩
    let add : ToolCall := ⟨"addNode", .object [("kind", .string "dataset"),
      ("position", .object [("x", .ofNat 1), ("y", .ofNat 2)])]⟩
    let connect : ToolCall := ⟨"addConnection", .object [("source", .string "NEW_NODE_ID"),
      ("target", .string "m"), ("sourceHandle", .string "dataset-output"),
      ("targetHandle", .string "model-input")]⟩
    let earlier := [delete "d", delete "t", add, connect]
    let reached := (engine.runTurn c earlier).2.graph
    reached.nodes.length = 2 ∧ reached.edges.length = 1 ∧ engine.KeepsLimits g reached ∧
      ⟨4, "addNode", .nodeLimitReached 2⟩ ∈ (engine.runTurn c (earlier ++ [add])).1.errors ∧
      ⟨4, "addConnection", .edgeLimitReached 1⟩ ∈
        (engine.runTurn c (earlier ++ [connect])).1.errors := by
  intro g c engine delete add connect earlier reached
  have hnodes : reached.nodes.length = 2 := by decide +kernel
  have hedges : reached.edges.length = 1 := by decide +kernel
  have hadd : ∃ request, ToolRequest.ofCall add = .ok (.addNode request) ∧
      NodeKind.parse? request.kind = some .dataset ∧ request.position.isFinite = true :=
    ⟨_, rfl, by decide +kernel, by decide +kernel⟩
  obtain ⟨hkeeps, hfullNodes, hfullEdges⟩ := runTurn_limits engine c earlier []
  obtain ⟨request, hcall, hkind, hposition⟩ := hadd
  refine ⟨hnodes, hedges, hkeeps, ?_, ?_⟩
  · exact hfullNodes add request .dataset hcall hkind hposition (Nat.le_of_eq hnodes.symm)
  · exact hfullEdges connect _ rfl (Nat.le_of_eq hedges.symm)

end Engine

end FineTuning

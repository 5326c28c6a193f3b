import FineTuning.Proofs.Assistant.Limits

/-!
# Calls that are made twice

A call may reach the engine a second time, right after the first and in the same conversation. Unless
it adds a node, this does no more to the graph: what is updated is the same already, what is deleted
is gone, and what is connected stays connected. `Engine.AnsweredAgain` lists what the second call is
told, by what the first was told.

* `NodePatch.applyTo?_again`: a patch that has applied changes nothing more.
* `Recovery.latestOfKind_looksAtNodes`: a new edge does not lead recovery to other nodes.
* `Engine.Executed.again`: what comes of a request that is made again.
* `Engine.executeCall_again`: the same for calls.
-/

namespace FineTuning

/-! ## Patches -/

theorem DatasetPatch.apply_apply (patch : DatasetPatch) (data : DatasetData) :
    patch.apply (patch.apply data) = patch.apply data := by
  simp only [apply, ← Option.getD_or, ← Option.or_assoc, Option.or_self]

theorem ModelPatch.apply_apply (patch : ModelPatch) (data : ModelData) :
    patch.apply (patch.apply data) = patch.apply data := by
  simp only [apply, ← Option.getD_or, ← Option.or_assoc, Option.or_self]

theorem TrainingPatch.apply_apply (patch : TrainingPatch) (data : TrainingData) :
    patch.apply (patch.apply data) = patch.apply data := by
  simp only [apply, ← Option.getD_or, Option.or_self]

/-- A patch that has applied applies again and changes nothing more, unless it has locked the
node. -/
theorem NodePatch.applyTo?_again {patch : NodePatch} {node : Node} {data : NodeData}
    (h : patch.applyTo? node.data = some data)
    (hopen : ({ node with data } : Node).isLocked = false) :
    patch.applyTo? data = some data := by
  unfold applyTo? at h
  split at h
  · cases h
    rw [applyTo?, DatasetPatch.apply_apply]
  · split at h
    · cases h
    · cases h
      have hopen : (ModelPatch.apply _ _).isLocked = false := hopen
      rw [applyTo?, if_neg (Bool.eq_false_iff.mp hopen), ModelPatch.apply_apply]
  · cases h
    rw [applyTo?, TrainingPatch.apply_apply]
  · cases h

/-- Rewriting what assistants may write does not lock a node. -/
theorem NodeData.Rewritten.isLocked_eq {node : Node} {data : NodeData}
    (h : node.data.Rewritten data) : ({ node with data } : Node).isLocked = node.isLocked := by
  obtain ⟨id, position, createdSeq, before⟩ := node
  cases h <;> rfl

/-! ## Graphs and stores -/

namespace Graph

theorem node?_setData_self {g : Graph} {id : String} {node : Node} (h : g.node? id = some node)
    (data : NodeData) : (g.setData id data).node? id = some { node with data } := by
  rw [node?_setData, h, Option.map_some, if_pos (mem_of_node?_eq_some h).2]

theorem setData_setData (g : Graph) (id : String) (data data' : NodeData) :
    (g.setData id data).setData id data' = g.setData id data' := by
  simp only [setData, mk.injEq, and_true]
  generalize g.nodes = nodes
  fun_induction setFirst id data nodes with
  | case1 => rfl
  | case2 first rest hid => simp only [setFirst, hid, ↓reduceIte]
  | case3 first rest hid ih => simp only [setFirst, hid, ↓reduceIte, ih, Bool.false_eq_true]

end Graph

namespace Store

/-- Data that is there already can be patched in, and the store stays as it is. -/
theorem updateNode_of_setData {s : Store} {g : Graph} {id : String} {node : Node}
    {patch : NodePatch} {data : NodeData} (hgraph : s.graph = g.setData id data)
    (hnode : g.node? id = some node) (hdata : patch.applyTo? data = some data) :
    s.updateNode id patch = (true, s) := by
  have hfound : s.graph.node? id = some { node with data } := by
    rw [hgraph, Graph.node?_setData_self hnode]
  have hsame : s.graph.setData id data = s.graph := by
    rw [hgraph, Graph.setData_setData]
  simp only [updateNode, hfound, Option.bind_some, hdata, hsame]

/-- Edges that are deleted cannot be deleted again. -/
theorem disconnect_edit_disconnect (s : Store) (reference : EdgeReference) :
    (s.edit (.disconnect reference)).disconnect reference =
      (false, s.edit (.disconnect reference)) := by
  have hnone : ¬(s.edit (.disconnect reference)).graph.edges.any reference.names = true := by
    rw [graph_edit_disconnect, List.any_eq_true]
    rintro ⟨e, he, hnamed⟩
    have hkept := (List.mem_filter.mp he).2
    rw [hnamed] at hkept
    cases hkept
  rw [disconnect, if_neg hnone]

end Store

/-! ## Recovery -/

/-- The choice depends on the nodes of the graph alone. -/
def Recovery.LooksAtNodes (recovery : Recovery) : Prop :=
  ∀ g g' : Graph, g'.nodes = g.nodes → recovery g' = recovery g

theorem Recovery.latestOfKind_looksAtNodes : Recovery.LooksAtNodes latestOfKind := by
  intro g g' hnodes
  funext created kind
  simp only [latestOfKind, Graph.kindOf?, Graph.node?, Graph.nodesOfKind, hnodes]

namespace Engine

variable {engine : Engine} {c c' : Conversation Store} {after : Store} {g g' : Graph}
  {created : List String}

/-- What a call is told that is made a second time, by what it was told the first time; then there
were so many edges. -/
inductive AnsweredAgain (engine : Engine) (edges : Nat) : ToolResult → ToolResult → Prop
  | failed (error : ToolError) : AnsweredAgain engine edges (.error error) (.error error)
  | nodeUpdated (id : String) :
    AnsweredAgain engine edges (.ok (.nodeUpdated id)) (.ok (.nodeUpdated id))
  | nodeDeleted (id : String) :
    AnsweredAgain engine edges (.ok (.nodeDeleted id)) (.error (.nodeNotFound id))
  | disconnected (reference : EdgeReference) :
    AnsweredAgain engine edges (.ok (.disconnected reference))
      (.error (.connectionNotFound reference))
  | connected (id source target : String) (hroom : edges < engine.maxEdges) :
    AnsweredAgain engine edges (.ok (.connected id source target))
      (.ok (.alreadyConnected source target))
  /-- The new edge was the last for which there was room. -/
  | full (id source target : String) (hfull : engine.maxEdges ≤ edges) :
    AnsweredAgain engine edges (.ok (.connected id source target))
      (.error (.edgeLimitReached engine.maxEdges))
  | alreadyConnected (source target : String) (hroom : edges < engine.maxEdges) :
    AnsweredAgain engine edges (.ok (.alreadyConnected source target))
      (.ok (.alreadyConnected source target))

/-! ## Requests -/

/-- An update that was carried out is carried out again and changes nothing more. -/
theorem updateNode_again {request : UpdateRequest} {id : String} {patch : NodePatch}
    (hresolve : engine.resolveUpdate c.editor.graph c.created request = .ok (id, patch))
    (hdone : (c.editor.perform (.updateNode id patch)).1 = true)
    (hafter : after = c.editor.edit (.updateNode id patch)) :
    engine.updateNode ⟨after, c.created⟩ request = (.ok (.nodeUpdated id), ⟨after, c.created⟩) := by
  obtain ⟨hid, node, hnode, hkind, hopen, hpatch⟩ := resolveUpdate_eq_ok_iff.mp hresolve
  obtain ⟨hreference, hmem⟩ := resolveNode_eq_ok_iff.mp hid
  obtain ⟨data, hdata, hgraph⟩ := Store.graph_edit_updateNode hnode hdone
  rw [← hafter] at hgraph
  have hrewritten := (NodePatch.isWritable_of_ofProperties hpatch).rewritten hdata
  have hopen' : ({ node with data } : Node).isLocked = false := hrewritten.isLocked_eq.trans hopen
  have hkind' : ({ node with data } : Node).kind = node.kind := NodePatch.kind_of_applyTo? hdata
  have hagain : engine.resolveUpdate after.graph c.created request = .ok (id, patch) := by
    rw [hgraph, resolveUpdate_eq_ok_iff, resolveNode_eq_ok_iff, Graph.nodeIds_setData]
    refine ⟨⟨hreference, hmem⟩, { node with data }, Graph.node?_setData_self hnode data, ?_, hopen',
      ?_⟩
    · rw [hkind']
      exact hkind
    · rw [hkind']
      exact hpatch
  have hupdate : after.updateNode id patch = (true, after) :=
    Store.updateNode_of_setData hgraph hnode (NodePatch.applyTo?_again hdata hopen')
  simp only [updateNode, GraphEditor.graph_store, hagain, GraphEditor.updateNode_store, hupdate,
    ↓reduceIte]

/-- A node that was deleted is not found any more, because no other node has its id. -/
theorem deleteNode_again (hids : c.editor.graph.nodeIds.Nodup) {request : DeleteNodeRequest}
    {id : String}
    (hresolve : resolveNode c.editor.graph c.created request.nodeId = .ok id)
    (hdone : (c.editor.perform (.deleteNode id)).1 = true)
    (hafter : after = c.editor.edit (.deleteNode id)) :
    deleteNode ⟨after, c.created⟩ request = (.error (.nodeNotFound id), ⟨after, c.created⟩) := by
  have hgraph := Store.graph_edit_deleteNode hdone
  rw [← hafter] at hgraph
  have hlost : id ∉ after.graph.nodeIds := by
    rw [hgraph, Graph.mem_nodeIds, Graph.eraseP_eq_filter hids]
    rintro ⟨node, hnode, rfl⟩
    have hkept := (List.mem_filter.mp hnode).2
    rw [bne_self_eq_false] at hkept
    cases hkept
  exact deleteNode_of_error (resolveNode_of_lost (resolveNode_eq_ok_iff.mp hresolve).1 hlost)

/-- Edges that were deleted are not found any more. -/
theorem deleteConnection_again {request : DisconnectRequest} {reference : EdgeReference}
    (hresolve : resolveDisconnection c.created request = .ok reference)
    (hafter : after = c.editor.edit (.disconnect reference)) :
    deleteConnection ⟨after, c.created⟩ request =
      (.error (.connectionNotFound reference), ⟨after, c.created⟩) := by
  have hdisconnect : after.disconnect reference = (false, after) := by
    rw [hafter]
    exact c.editor.disconnect_edit_disconnect reference
  simp only [deleteConnection, hresolve, GraphEditor.disconnect_store, hdisconnect,
    Bool.false_eq_true, ↓reduceIte]

/-- Where only edges are new, ends are resolved to the same nodes. -/
theorem resolveEnd_of_nodes_eq (hrecovery : ∀ recovery ∈ engine.recovery, recovery.LooksAtNodes)
    (hnodes : g'.nodes = g.nodes) (reference handle : String) :
    engine.resolveEnd g' created reference handle =
      engine.resolveEnd g created reference handle := by
  have hnode : ∀ id, g'.hasNode id = g.hasNode id := by
    simp only [Graph.hasNode, Graph.node?, hnodes, implies_true]
  have hrecover : engine.recover? g' created handle = engine.recover? g created handle := by
    cases hengine : engine.recovery with
    | none =>
      rw [recover?, recover?, hengine]
      rfl
    | some recovery =>
      have hsame : recovery g' = recovery g := hrecovery recovery hengine g g' hnodes
      simp only [recover?, hengine, Option.bind_eq_bind, Option.bind_some, hsame]
  simp only [resolveEnd, hnode, hrecover]

theorem resolveConnection_of_nodes_eq
    (hrecovery : ∀ recovery ∈ engine.recovery, recovery.LooksAtNodes)
    (hnodes : g'.nodes = g.nodes) {request : ConnectRequest} {source target : String}
    (hresolve : engine.resolveConnection g created request = .ok (source, target))
    (hroom : g'.edges.length < engine.maxEdges) :
    engine.resolveConnection g' created request = .ok (source, target) := by
  obtain ⟨-, hsource, htarget, hcompatible⟩ := resolveConnection_eq_ok_iff.mp hresolve
  have hkind : ∀ id, g'.kindOf? id = g.kindOf? id := by
    simp only [Graph.kindOf?, Graph.node?, hnodes, implies_true]
  rw [← resolveEnd_of_nodes_eq hrecovery hnodes] at hsource htarget
  rw [← Graph.isCompatible_congr (hkind source) (hkind target)] at hcompatible
  exact resolveConnection_eq_ok_iff.mpr ⟨hroom, hsource, htarget, hcompatible⟩

/-- Nodes that were connected are connected already, if there is still room to ask for it. -/
theorem addConnection_again (hrecovery : ∀ recovery ∈ engine.recovery, recovery.LooksAtNodes)
    {request : ConnectRequest} {source target : String}
    (hresolve : engine.resolveConnection c.editor.graph c.created request = .ok (source, target))
    (hdone : (c.editor.perform (request.edit source target)).1 = true)
    (hafter : after = c.editor.edit (request.edit source target))
    (hroom : after.graph.edges.length < engine.maxEdges) :
    engine.addConnection ⟨after, c.created⟩ request =
      (.ok (.alreadyConnected source target), ⟨after, c.created⟩) := by
  have hgraph := Store.graph_edit_connect hdone
  rw [← ConnectRequest.edit, ← hafter] at hgraph
  have hnodes : after.graph.nodes = c.editor.graph.nodes := by rw [hgraph]
  have hconnected : after.graph.isConnected source target = true := by
    rw [hgraph, Graph.isConnected_iff]
    exact ⟨_, List.mem_append_right _ (List.mem_singleton_self _), rfl, rfl⟩
  exact addConnection_of_isConnected
    (resolveConnection_of_nodes_eq hrecovery hnodes hresolve hroom) hconnected

/-- A request that adds no node leaves the list of created nodes as it was. -/
theorem Executed.created_eq {request : ToolRequest} {result : ToolResult}
    (h : Executed engine c request result c') (hrequest : request.tool ≠ .addNode) :
    c'.created = c.created := by
  cases h with
  | nodeAdded => exact absurd rfl hrequest
  | _ => rfl

/-- **A request that is made again changes nothing,** by cases on what came of it the first time. -/
theorem Executed.again (hrecovery : ∀ recovery ∈ engine.recovery, recovery.LooksAtNodes)
    (hids : c.editor.graph.nodeIds.Nodup) {request : ToolRequest} {result : ToolResult}
    (h : Executed engine c request result c')
    (hfirst : engine.execute c request = (result, c')) (hrequest : request.tool ≠ .addNode) :
    (engine.execute c' request).2 = c' ∧
      engine.AnsweredAgain c'.editor.graph.edges.length result (engine.execute c' request).1 := by
  cases h with
  | failed request error =>
    rw [hfirst]
    exact ⟨rfl, .failed error⟩
  | nodeUpdated request id patch hresolve hdone =>
    rw [execute, updateNode_again hresolve hdone rfl]
    exact ⟨rfl, .nodeUpdated id⟩
  | nodeAdded => exact absurd rfl hrequest
  | nodeDeleted request id hresolve hdone =>
    rw [execute, deleteNode_again hids hresolve hdone rfl]
    exact ⟨rfl, .nodeDeleted id⟩
  | alreadyConnected request source target hresolve hconnected =>
    rw [hfirst]
    exact ⟨rfl, .alreadyConnected source target (length_lt_of_resolveConnection hresolve)⟩
  | connected request source target hresolve hnew hdone =>
    rw [execute]
    -- The limit is looked at before the edges that are there.
    by_cases hroom :
        (c.editor.edit (request.edit source target)).graph.edges.length < engine.maxEdges
    · rw [addConnection_again hrecovery hresolve hdone rfl hroom]
      exact ⟨rfl, .connected _ source target hroom⟩
    · have hfull := Nat.le_of_not_lt hroom
      rw [addConnection_of_error (resolveConnection_of_full engine hfull)]
      exact ⟨rfl, .full _ source target hfull⟩
  | disconnected request reference hresolve hdone =>
    rw [execute, deleteConnection_again hresolve rfl]
    exact ⟨rfl, .disconnected reference⟩

/-! ## Calls -/

theorem tool_of_decodeArgs {tool : Tool} {args : Json.Reading} {request : ToolRequest}
    (h : tool.decodeArgs args = .ok request) : request.tool = tool := by
  cases tool <;> obtain ⟨decoded, -, rfl⟩ := map_eq_ok_iff.mp h <;> rfl

/-- A call is decoded to a request for the tool that it names. -/
theorem toolName_of_ofCall {call : ToolCall} {request : ToolRequest}
    (h : ToolRequest.ofCall call = .ok request) : call.toolName = request.tool.name := by
  unfold ToolRequest.ofCall at h
  split at h
  · rename_i tool htool
    have hname : tool.name = call.toolName := by simpa using List.find?_some htool
    rw [tool_of_decodeArgs (mapError_eq_ok_iff.mp h), hname]
  · cases h

variable {call : ToolCall}

/-- A call to any tool except the one that adds nodes leaves the list of created nodes as it was. -/
theorem created_executeCall (engine : Engine) (c : Conversation Store)
    (hcall : call.toolName ≠ Tool.addNode.name) :
    (engine.executeCall c call).2.created = c.created := by
  unfold executeCall
  split
  · rename_i request hdecoded
    refine (executed engine c request).created_eq fun hrequest => hcall ?_
    rw [toolName_of_ofCall hdecoded, hrequest]
  · rfl

/-- A call that is made again changes nothing. -/
theorem executeCall_executeCall (hrecovery : ∀ recovery ∈ engine.recovery, recovery.LooksAtNodes)
    (c : Conversation Store) (hids : c.editor.graph.nodeIds.Nodup)
    (hcall : call.toolName ≠ Tool.addNode.name) :
    let first := engine.executeCall c call
    (engine.executeCall first.2 call).2 = first.2 ∧
      engine.AnsweredAgain first.2.editor.graph.edges.length first.1
        (engine.executeCall first.2 call).1 := by
  intro first
  cases hdecoded : ToolRequest.ofCall call with
  | error error =>
    have hfail : ∀ c' : Conversation Store, engine.executeCall c' call = (.error error, c') := by
      intro c'
      simp only [executeCall, hdecoded]
    have hfirst : first = (.error error, c) := hfail c
    rw [hfirst, hfail]
    exact ⟨rfl, .failed error⟩
  | ok request =>
    have hfirst : first = engine.execute c request := executeCall_of_ofCall engine c hdecoded
    have hrequest : request.tool ≠ .addNode := by
      intro hrequest
      rw [toolName_of_ofCall hdecoded, hrequest] at hcall
      exact hcall rfl
    rw [executeCall_of_ofCall engine _ hdecoded, hfirst]
    exact (executed engine c request).again hrecovery hids rfl hrequest

/-- The ways of recovery that a configuration can ask for look at the nodes alone. -/
theorem looksAtNodes_ofConfig (catalog : Catalog) (config : Config) :
    ∀ recovery ∈ (ofConfig catalog config).recovery, recovery.LooksAtNodes := by
  intro recovery hrecovery
  simp only [ofConfig, withConfig, withCatalog] at hrecovery
  split at hrecovery
  · cases hrecovery
    exact Recovery.latestOfKind_looksAtNodes
  · cases hrecovery

/-- **A call that is made a second time does no more.** Take a graph without repeated ids, as that of
every store is. Right after a call to any tool except the one that adds nodes, the same call in the
same conversation leaves the store exactly as the first one did. If the first failed, the second
fails in the same way. What was updated is updated, what was deleted is not found, and nodes that
were connected are connected already, unless there is no room for edges any more. -/
theorem executeCall_again (catalog : Catalog) (config : Config) (c : Conversation Store)
    (hids : c.editor.graph.nodeIds.Nodup) (hcall : call.toolName ≠ Tool.addNode.name) :
    let engine := ofConfig catalog config
    let first := engine.executeCall c call
    let second := engine.executeCall ⟨first.2.editor, c.created⟩ call
    second.2 = first.2 ∧
      engine.AnsweredAgain first.2.editor.graph.edges.length first.1 second.1 := by
  intro engine first second
  have hsame : (⟨first.2.editor, c.created⟩ : Conversation Store) = first.2 := by
    rw [← created_executeCall engine c hcall]
  have hsecond : second = engine.executeCall first.2 call :=
    congrArg (engine.executeCall · call) hsame
  rw [hsecond]
  exact executeCall_executeCall (looksAtNodes_ofConfig catalog config) c hids hcall

/-- The node that was created last is gone, so recovery finds the other end of the new edge. It is the
last one for which there is room, and the second call is told so. -/
theorem executeCall_again_full :
    let g : Graph := ⟨[⟨"d", .origin, 1, .initial .dataset⟩, ⟨"m", .origin, 2, .initial .model⟩], []⟩
    let c : Conversation Store := ⟨⟨g, 3, 3⟩, ["gone"]⟩
    let config := { Config.default with maxEdges := 1 }
    let engine := ofConfig ⟨[]⟩ config
    let call : ToolCall := ⟨"addConnection", .object [("source", .string "d"),
      ("target", .string "NEW_NODE_ID"), ("sourceHandle", .string "dataset-output"),
      ("targetHandle", .string "model-input")]⟩
    let first := engine.executeCall c call
    let second := engine.executeCall ⟨first.2.editor, ["gone"]⟩ call
    g.nodeIds.Nodup ∧ call.toolName ≠ Tool.addNode.name ∧
      first.1 = .ok (.connected "edge-d-m" "d" "m") ∧
      second = (.error (.edgeLimitReached 1), first.2) := by
  intro g c config engine call first second
  have hids : g.nodeIds.Nodup := by decide
  have hcall : call.toolName ≠ Tool.addNode.name := by decide
  have hfirst : first.1 = .ok (.connected "edge-d-m" "d" "m") := by decide +kernel
  have hedges : first.2.editor.graph.edges.length = 1 := by decide +kernel
  obtain ⟨hsame, hagain⟩ := executeCall_again ⟨[]⟩ config c hids hcall
  refine ⟨hids, hcall, hfirst, Prod.ext ?_ hsame⟩
  show second.1 = .error (.edgeLimitReached 1)
  have hagain' : engine.AnsweredAgain 1 (.ok (.connected "edge-d-m" "d" "m")) second.1 := by
    rw [← hedges, ← hfirst]
    exact hagain
  generalize second.1 = result at hagain' ⊢
  cases hagain' with
  | connected _ _ _ hroom => exact absurd hroom (Nat.lt_irrefl 1)
  | full => rfl

end Engine

end FineTuning

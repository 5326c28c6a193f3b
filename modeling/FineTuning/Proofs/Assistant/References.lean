import FineTuning.Proofs.Assistant.Connections

/-!
# What references stand for

Assistants refer to nodes by their ids, and blanks around an id do not count: a reference stands for
the trimmed id. So a node is addressed by its own id if this id has no blanks around it; otherwise
its id stands for the node with the trimmed id, should there be one.

* `resolveNode_eq`, `Engine.resolveEnd_of_mem`: what a reference is resolved to.
* `Graph.eraseP_eq_erase`: deleting by an id takes out one node.
* `Engine.Executed.sameExceptAt`: an update changes at most the node that it refers to.
* `Engine.Executed.exists_added`: a new edge joins the nodes that the request refers to.
* `Engine.calls_address_trimmed_id`: what calls with a reference do to the graph.
-/

namespace FineTuning

/-! ## Resolving references -/

/-- What stands for a node of the graph needs no recovery. -/
theorem Engine.resolveEnd_of_found (engine : Engine) {g : Graph} {created : List String}
    {reference id : String} (hreference : resolveReference created reference = .ok id)
    (hid : id ∈ g.nodeIds) (handle : String) :
    engine.resolveEnd g created reference handle = .ok id := by
  rw [resolveEnd, hreference]
  show (if g.hasNode id then _ else _) = _
  rw [if_pos (Graph.hasNode_iff.mpr hid)]
  rfl

section Resolving

variable {g : Graph} {created : List String} {reference id : String}

/-- A reference is resolved to what it stands for, if this is a node of the graph. -/
theorem resolveNode_eq_ok_iff :
    resolveNode g created reference = .ok id ↔
      resolveReference created reference = .ok id ∧ id ∈ g.nodeIds := by
  simp only [resolveNode, bind_eq_ok_iff]
  constructor
  · rintro ⟨known, hreference, h⟩
    split at h
    · rename_i hknown
      cases h
      exact ⟨hreference, Graph.hasNode_iff.mp hknown⟩
    · cases h
  · rintro ⟨hreference, hid⟩
    exact ⟨id, hreference, if_pos (Graph.hasNode_iff.mpr hid)⟩

theorem resolveNode_of_lost (hreference : resolveReference created reference = .ok id)
    (hid : id ∉ g.nodeIds) : resolveNode g created reference = .error (.nodeNotFound id) := by
  rw [resolveNode, hreference]
  exact if_neg (mt Graph.hasNode_iff.mp hid)

end Resolving

section ByName

variable {reference : String} (hname : Text.trim reference ≠ newNodeId)
include hname

theorem resolveReference_of_ne (created : List String) :
    resolveReference created reference = .ok (Text.trim reference) :=
  if_neg hname

/-- A reference stands for the node with the trimmed id, if there is one. -/
theorem resolveNode_eq (g : Graph) (created : List String) :
    resolveNode g created reference =
      if g.hasNode (Text.trim reference) then .ok (Text.trim reference)
      else .error (.nodeNotFound (Text.trim reference)) := by
  rw [resolveNode, resolveReference_of_ne hname]
  rfl

theorem Engine.resolveEnd_of_mem (engine : Engine) {g : Graph}
    (hid : Text.trim reference ∈ g.nodeIds) (created : List String) (handle : String) :
    engine.resolveEnd g created reference handle = .ok (Text.trim reference) :=
  engine.resolveEnd_of_found (resolveReference_of_ne hname created) hid handle

end ByName

/-! ## Graphs -/

namespace Graph

variable {g : Graph} {id : String} {node : Node}

/-- Where the ids are distinct, deleting by an id takes out the node with the id. -/
theorem eraseP_eq_erase (hids : g.nodeIds.Nodup) (hnode : g.node? id = some node) :
    g.nodes.eraseP (·.id == id) = g.nodes.erase node := by
  obtain ⟨hmem, rfl⟩ := mem_of_node?_eq_some hnode
  rw [eraseP_eq_filter hids, (List.Nodup.of_map _ hids).erase_eq_filter]
  refine List.filter_congr fun n hn => ?_
  by_cases hid : n.id = node.id
  · rw [eq_of_id_eq hids hn hmem hid, bne_self_eq_false, bne_self_eq_false]
  · have hne : n ≠ node := fun h => hid (congrArg Node.id h)
    rw [bne_iff_ne.mpr hid, bne_iff_ne.mpr hne]

/-- The graphs are the same, but perhaps for what is stored in the node with the id. -/
structure SameExceptAt (id : String) (before after : Graph) : Prop where
  nodes : List.Forall₂ (fun n n' => n'.id = n.id ∧ (n.id ≠ id → n' = n)) before.nodes after.nodes
  edges : after.edges = before.edges

theorem SameExceptAt.refl (id : String) (g : Graph) : g.SameExceptAt id g :=
  ⟨List.forall₂_same.mpr fun _ _ => ⟨rfl, fun _ => rfl⟩, rfl⟩

theorem SameExceptAt.setData (g : Graph) (id : String) (data : NodeData) :
    g.SameExceptAt id (g.setData id data) := by
  refine ⟨?_, rfl⟩
  rw [Graph.setData]
  generalize g.nodes = nodes
  fun_induction setFirst id data nodes with
  | case1 => exact .nil
  | case2 first rest hid =>
    refine .cons ⟨rfl, fun hne => absurd (beq_iff_eq.mp hid) hne⟩ ?_
    exact List.forall₂_same.mpr fun _ _ => ⟨rfl, fun _ => rfl⟩
  | case3 first rest _ ih => exact .cons ⟨rfl, fun _ => rfl⟩ ih

end Graph

/-! ## Calls -/

namespace Engine

variable {engine : Engine} {c c' : Conversation Store} {result : ToolResult} {reference : String}

/-- An update changes at most the node that it refers to. -/
theorem Executed.sameExceptAt {request : UpdateRequest}
    (h : Executed engine c (.updateNodeProperties request) result c')
    (hname : Text.trim request.nodeId ≠ newNodeId) :
    c.editor.graph.SameExceptAt (Text.trim request.nodeId) c'.editor.graph := by
  cases h with
  | failed => exact .refl _ _
  | nodeUpdated request id patch hresolve hdone =>
    obtain ⟨hid, node, hnode, -, -⟩ := of_resolveUpdate_eq_ok hresolve
    rw [resolveNode_eq hname] at hid
    obtain rfl : Text.trim request.nodeId = id := by
      split at hid
      · exact Except.ok.inj hid
      · cases hid
    obtain ⟨data, -, hgraph⟩ := Store.graph_edit_updateNode hnode hdone
    rw [hgraph]
    exact .setData _ _ data

/-- The ends of a new edge are what the request refers to. -/
theorem Executed.exists_added {request : ConnectRequest}
    (h : Executed engine c (.addConnection request) result c') :
    ∃ added, c'.editor.graph.edges = c.editor.graph.edges ++ added ∧ ∀ e ∈ added,
      engine.resolveEnd c.editor.graph c.created request.source request.sourceHandle =
        .ok e.source ∧
      engine.resolveEnd c.editor.graph c.created request.target request.targetHandle =
        .ok e.target := by
  cases h with
  | failed | alreadyConnected => exact ⟨[], (List.append_nil _).symm, List.forall_mem_nil _⟩
  | connected request source target hresolve hnew hdone =>
    obtain ⟨hsource, htarget, -⟩ := of_resolveConnection_eq_ok hresolve
    rw [ConnectRequest.edit, Store.graph_edit_connect hdone]
    exact ⟨_, rfl, List.forall_mem_singleton.mpr ⟨hsource, htarget⟩⟩

/-- A deletion takes out the node that it refers to, and the edges at it. -/
theorem deleteNode_of_mem (hids : c.editor.graph.nodeIds.Nodup)
    (hname : Text.trim reference ≠ newNodeId)
    (hid : Text.trim reference ∈ c.editor.graph.nodeIds) :
    (deleteNode c ⟨reference⟩).1 = .ok (.nodeDeleted (Text.trim reference)) ∧
      ∃ node, c.editor.graph.node? (Text.trim reference) = some node ∧
        (deleteNode c ⟨reference⟩).2.editor.graph = ⟨c.editor.graph.nodes.erase node,
          c.editor.graph.edges.filter (!·.touches (Text.trim reference))⟩ := by
  have hnode : c.editor.graph.hasNode (Text.trim reference) = true := Graph.hasNode_iff.mpr hid
  obtain ⟨node, hfound⟩ := Graph.exists_node?_of_mem hid
  have hresolve : resolveNode c.editor.graph c.created reference = .ok (Text.trim reference) :=
    (resolveNode_eq hname _ _).trans (if_pos hnode)
  have hdone : (c.editor.deleteNode (Text.trim reference)).1 = true :=
    congrArg Prod.fst (Store.deleteNode_of_mem hid)
  have hgraph := Store.graph_edit_deleteNode (s := c.editor) hdone
  rw [Graph.eraseP_eq_erase hids hfound] at hgraph
  simp only [deleteNode, GraphEditor.graph_store, hresolve, GraphEditor.deleteNode_store]
  exact ⟨if_pos hdone, node, hfound, hgraph⟩

/-- The ends of new edges are the nodes that the request refers to. -/
theorem Executed.exists_added_of_mem {request : ConnectRequest}
    (h : Executed engine c (.addConnection request) result c')
    (hname : Text.trim reference ≠ newNodeId)
    (hid : Text.trim reference ∈ c.editor.graph.nodeIds) :
    ∃ added, c'.editor.graph.edges = c.editor.graph.edges ++ added ∧
      (request.source = reference → ∀ e ∈ added, e.source = Text.trim reference) ∧
      (request.target = reference → ∀ e ∈ added, e.target = Text.trim reference) := by
  obtain ⟨added, hedges, hends⟩ := h.exists_added
  refine ⟨added, hedges, ?_, ?_⟩
  · rintro rfl e he
    have hsource := (hends e he).1
    rw [resolveEnd_of_mem hname engine hid] at hsource
    exact (Except.ok.inj hsource).symm
  · rintro rfl e he
    have htarget := (hends e he).2
    rw [resolveEnd_of_mem hname engine hid] at htarget
    exact (Except.ok.inj htarget).symm

/-- **Calls address nodes by trimmed ids.** Let a reference other than the name for the node that
was created last stand in a call on a graph without repeated ids, as that of every store is. If
there is a node with the trimmed id, then deleting it takes out this node and the edges at it, and
nothing else; an update changes at most what is stored in this node; and a connection that begins or
ends at it gives no edge that begins or ends anywhere else. If there is no such node, deleting and
updating it fail, and nothing changes. -/
theorem calls_address_trimmed_id (engine : Engine) (c : Conversation Store)
    (hids : c.editor.graph.nodeIds.Nodup) {reference : String}
    (hname : Text.trim reference ≠ newNodeId) {call : ToolCall} {request : ToolRequest}
    (hcall : ToolRequest.ofCall call = .ok request) :
    let id := Text.trim reference
    let result := (engine.executeCall c call).1
    let before := c.editor.graph
    let after := (engine.executeCall c call).2.editor.graph
    (id ∈ before.nodeIds →
      (request = .deleteNode ⟨reference⟩ → result = .ok (.nodeDeleted id) ∧
        ∃ node, before.node? id = some node ∧
          after = ⟨before.nodes.erase node, before.edges.filter (!·.touches id)⟩) ∧
      (∀ update, request = .updateNodeProperties update → update.nodeId = reference →
        before.SameExceptAt id after) ∧
      (∀ connect, request = .addConnection connect →
        ∃ added, after.edges = before.edges ++ added ∧
          (connect.source = reference → ∀ e ∈ added, e.source = id) ∧
          (connect.target = reference → ∀ e ∈ added, e.target = id))) ∧
    (id ∉ before.nodeIds →
      (request = .deleteNode ⟨reference⟩ ∨
        ∃ update, request = .updateNodeProperties update ∧ update.nodeId = reference) →
      engine.executeCall c call = (.error (.nodeNotFound id), c)) := by
  intro id result before after
  have hexecuted : Executed engine c request result (engine.executeCall c call).2 :=
    executed_of_ofCall engine c hcall
  refine ⟨fun hid => ⟨?_, ?_, ?_⟩, fun hid h => ?_⟩
  · rintro rfl
    have hdelete : engine.executeCall c call = deleteNode c ⟨reference⟩ :=
      executeCall_of_ofCall engine c hcall
    obtain ⟨hresult, hgraph⟩ := deleteNode_of_mem hids hname hid
    rw [← hdelete] at hresult hgraph
    exact ⟨hresult, hgraph⟩
  · rintro update rfl rfl
    exact hexecuted.sameExceptAt hname
  · rintro connect rfl
    exact hexecuted.exists_added_of_mem hname hid
  · have hresolve := resolveNode_eq hname before c.created
    rw [if_neg (mt Graph.hasNode_iff.mp hid)] at hresolve
    rw [executeCall_of_ofCall engine c hcall]
    rcases h with rfl | ⟨update, rfl, rfl⟩
    · exact deleteNode_of_error hresolve
    · exact updateNode_of_error (bind_eq_error_iff.mpr (.inl hresolve))

/-- A dataset is deleted by its id with blanks around it, together with its edge. -/
theorem calls_address_trimmed_id_blanks :
    let model : Node := ⟨"m", .origin, 2, .initial .model⟩
    let g : Graph := ⟨[⟨"a", .origin, 1, .initial .dataset⟩, model],
      [⟨"e", "a", "m", "dataset-output", "model-input"⟩]⟩
    let c : Conversation Store := ⟨⟨g, 3, 3⟩, []⟩
    let engine := Engine.ofConfig ⟨[]⟩ .default
    let call : ToolCall := ⟨"deleteNode", .object [("nodeId", .string " a\n")]⟩
    (engine.executeCall c call).1 = .ok (.nodeDeleted "a") ∧
      (engine.executeCall c call).2.editor.graph = ⟨[model], []⟩ := by
  intro model g c engine call
  have hcall : ToolRequest.ofCall call = .ok (.deleteNode ⟨" a\n"⟩) := rfl
  have hname : Text.trim " a\n" ≠ newNodeId := by decide
  have hids : c.editor.graph.nodeIds.Nodup := by decide
  have htrim : Text.trim " a\n" = "a" := by decide
  obtain ⟨hpresent, -⟩ := calls_address_trimmed_id engine c hids hname hcall
  obtain ⟨hresult, node, hnode, hafter⟩ := (hpresent (by decide)).1 rfl
  rw [htrim] at hresult hnode hafter
  obtain rfl : ⟨"a", .origin, 1, .initial .dataset⟩ = node := Option.some.inj hnode
  exact ⟨hresult, hafter.trans (by decide)⟩

/-- A graph is accepted from its text and loaded with an id that has blanks around it. An assistant
that refers to this id deletes another node. -/
theorem deleteNode_of_blanks_in_id :
    let g : Graph := ⟨[⟨"a", .origin, 1, .initial .dataset⟩, ⟨" a ", .origin, 2, .initial .dataset⟩],
      []⟩
    let c : Conversation Store := ⟨⟨g, 3, 3⟩, []⟩
    let engine := Engine.ofConfig ⟨[]⟩ .default
    let call : ToolCall := ⟨"deleteNode", .object [("nodeId", .string " a ")]⟩
    Graph.ofText g.toText = .ok g ∧ Store.ofGraph g = .ok c.editor ∧
      " a " ∈ g.nodeIds ∧ Text.trim " a " ≠ newNodeId ∧
      ToolRequest.ofCall call = .ok (.deleteNode ⟨" a "⟩) ∧
      (engine.executeCall c call).1 = .ok (.nodeDeleted "a") ∧
      (engine.executeCall c call).2.editor.graph.nodeIds = [" a "] := by
  intro g c engine call
  have hread : Graph.ofText g.toText = .ok g := by
    refine Graph.ofText_toText ⟨by decide, by decide, by decide⟩ (by decide) ?_ ?_
    · decide +kernel
    · decide +kernel
  exact ⟨hread, rfl, by decide, by decide, rfl, by decide +kernel, by decide +kernel⟩

end Engine

end FineTuning

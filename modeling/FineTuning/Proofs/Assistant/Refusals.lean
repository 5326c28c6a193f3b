import FineTuning.Proofs.Assistant.Recovery

/-!
# Checks of the engine and of the store

Before the engine asks the store for an edit, it checks for itself what the store will check: that
the node is there, of the right kind and open, and that the edge is well typed and new. The two
agree, so what the engine has resolved is carried out, and no answer ever tells that the store has
refused it.

* `Store.perform_updateNode_of_isWritable`: an update that the store does not refuse.
* `Engine.fst_updateNode` and the like: the result of a request is what it is resolved to.
* `NeverRefuses`: checks whose errors do not tell of a refusal, such as all those of an update.
* `Engine.exists_of_rejected`: a connection is only rejected if it is ill typed.
* `Engine.execute_agrees`: all this of every request, and the edge of which a new connection tells.
-/

namespace FineTuning

/-! ## Updates that are carried out -/

/-- A patch for nodes of the kind applies to every one of them that is not locked. -/
theorem NodePatch.IsWritable.applies {catalog : Catalog} {node : Node} {patch : NodePatch}
    (h : patch.IsWritable catalog node.kind) (hopen : node.isLocked = false) :
    (patch.applyTo? node.data).isSome = true := by
  obtain ⟨id, position, createdSeq, data⟩ := node
  cases data with
  | dataset d => cases h; rfl
  | model d =>
    cases h
    have hopen' : d.isLocked = false := hopen
    simp only [applyTo?, hopen', Bool.false_eq_true, ↓reduceIte, Option.isSome_some]
  | training d => cases h; rfl

theorem Store.perform_updateNode_of_isWritable {s : Store} {id : String} {catalog : Catalog}
    {node : Node} {patch : NodePatch}
    (hnode : s.graph.node? id = some node) (hopen : node.isLocked = false)
    (h : patch.IsWritable catalog node.kind) : (s.perform (.updateNode id patch)).1 = true := by
  obtain ⟨data, hdata⟩ := Option.isSome_iff_exists.mp (h.applies hopen)
  simp only [perform, updateNode, hnode, Option.bind_some, hdata]

/-! ## Results -/

namespace Engine

variable {engine : Engine} {c c' : Conversation Store}

/-- An update succeeds just when it is resolved. -/
theorem fst_updateNode (engine : Engine) (c : Conversation Store) (request : UpdateRequest) :
    (engine.updateNode c request).1 =
      (engine.resolveUpdate c.editor.graph c.created request).map fun (id, _) =>
        .nodeUpdated id := by
  cases hresolve : engine.resolveUpdate c.editor.graph c.created request with
  | error error => rw [updateNode_of_error hresolve]; rfl
  | ok resolved =>
    obtain ⟨id, patch⟩ := resolved
    obtain ⟨node, hnode, hopen, hpatch⟩ := exists_of_resolveUpdate hresolve
    have hdone : (c.editor.updateNode id patch).1 = true :=
      Store.perform_updateNode_of_isWritable hnode hopen hpatch
    simp only [updateNode, GraphEditor.graph_store, hresolve, GraphEditor.updateNode_store, hdone,
      ↓reduceIte, Except.map]

/-- A node is added just when it can be. -/
theorem fst_addNode (engine : Engine) (c : Conversation Store) (request : AddNodeRequest) :
    (engine.addNode c request).1 =
      (engine.resolveAddition c.editor.graph request).map fun kind =>
        .nodeAdded (c.editor.addNode kind request.position).1 kind := by
  cases hresolve : engine.resolveAddition c.editor.graph request with
  | error error => rw [addNode_of_error hresolve]; rfl
  | ok kind =>
    simp only [addNode, GraphEditor.graph_store, hresolve]
    rfl

/-- A node is deleted just when it is found. -/
theorem fst_deleteNode (c : Conversation Store) (request : DeleteNodeRequest) :
    (deleteNode c request).1 =
      (resolveNode c.editor.graph c.created request.nodeId).map .nodeDeleted := by
  cases hresolve : resolveNode c.editor.graph c.created request.nodeId with
  | error error => rw [deleteNode_of_error hresolve]; rfl
  | ok id =>
    have hdone : (c.editor.deleteNode id).1 = true :=
      congrArg Prod.fst (Store.deleteNode_of_mem (resolveNode_eq_ok_iff.mp hresolve).2)
    simp only [deleteNode, GraphEditor.graph_store, hresolve, GraphEditor.deleteNode_store, hdone,
      ↓reduceIte, Except.map]

/-- Nodes are connected, be it before or now, just when their connection is resolved. -/
theorem fst_addConnection (engine : Engine) (c : Conversation Store) (request : ConnectRequest) :
    (engine.addConnection c request).1 =
      (engine.resolveConnection c.editor.graph c.created request).map fun (source, target) =>
        if c.editor.graph.isConnected source target then .alreadyConnected source target
        else .connected (lastEdgeId (c.editor.edit (request.edit source target)).graph source target)
          source target := by
  cases hresolve : engine.resolveConnection c.editor.graph c.created request with
  | error error => rw [addConnection_of_error hresolve]; rfl
  | ok ends =>
    obtain ⟨source, target⟩ := ends
    cases hconnected : c.editor.graph.isConnected source target with
    | true =>
      rw [addConnection_of_isConnected hresolve hconnected]
      simp only [Except.map, hconnected, ↓reduceIte]
    | false =>
      have hdone : (c.editor.connect source target request.sourceHandle request.targetHandle).1 =
          true :=
        congrArg Prod.fst
          (Store.connect_of_new (of_resolveConnection_eq_ok hresolve).2.2 hconnected)
      simp only [addConnection, GraphEditor.graph_store, hresolve, hconnected, Except.map,
        GraphEditor.connect_store, hdone, Bool.false_eq_true, ↓reduceIte]
      rfl

end Engine

/-! ## Errors -/

/-- The error tells that the store refuses an edit. -/
def ToolError.IsRefusal : ToolError → Prop
  | .updateRejected _ | .deleteFailed _ | .connectionRejected _ _ _ _ => True
  | _ => False

/-- No error of the check tells that the store refuses an edit. -/
def NeverRefuses {α : Type} (check : Except ToolError α) : Prop :=
  ∀ error, check = .error error → ¬error.IsRefusal

namespace NeverRefuses

variable {α β : Type} {check : Except ToolError α}

theorem ok (value : α) : NeverRefuses (.ok value) := nofun

theorem error {error : ToolError} (h : ¬error.IsRefusal) :
    NeverRefuses (.error error : Except ToolError α) := by
  intro other hother
  cases hother
  exact h

theorem bind {next : α → Except ToolError β} (hcheck : NeverRefuses check)
    (hnext : ∀ value, NeverRefuses (next value)) : NeverRefuses (check >>= next) := by
  intro error h
  rcases bind_eq_error_iff.mp h with h | ⟨value, -, h⟩
  · exact hcheck error h
  · exact hnext value error h

theorem map (hcheck : NeverRefuses check) (change : α → β) : NeverRefuses (check.map change) := by
  cases check with
  | ok value => exact .ok _
  | error error => exact .error (hcheck error rfl)

theorem optional {check : α → Except ToolError β} (hcheck : ∀ a, NeverRefuses (check a))
    (given : Option α) : NeverRefuses (checkOptional check given) := by
  cases given with
  | none => exact .ok none
  | some a => exact (hcheck a).map some

end NeverRefuses

/-! ### Properties -/

theorem neverRefuses_decodeProperties {α : Type} (decode : Json.Decoder α)
    (properties : List (String × Json)) : NeverRefuses (decodeProperties decode properties) := by
  unfold decodeProperties
  cases decode (.ofJson (.object properties)) with
  | ok value => exact .ok value
  | error cause => exact .error not_false

theorem neverRefuses_checkEpochs (value : Numeric) : NeverRefuses (checkEpochs value) := by
  unfold checkEpochs
  split
  · split
    · exact .ok _
    · exact .error not_false
  · exact .error not_false

theorem neverRefuses_checkBatchSize (value : Numeric) : NeverRefuses (checkBatchSize value) := by
  unfold checkBatchSize
  split
  · split
    · exact .ok _
    · exact .error not_false
  · exact .error not_false

theorem neverRefuses_checkQuantization (property : CheckedProperty) (value : String) :
    NeverRefuses (checkQuantization property value) := by
  unfold checkQuantization
  split
  · exact .ok _
  · exact .error not_false

theorem neverRefuses_checkStatus (value : String) : NeverRefuses (checkStatus value) := by
  unfold checkStatus
  split
  · exact .ok _
  · exact .error not_false

theorem neverRefuses_checkModel (catalog : Catalog) (name : String) :
    NeverRefuses (checkModel catalog name) := by
  unfold checkModel
  split
  · exact .ok _
  · exact .error not_false

namespace NodePatch

variable (kind : NodeKind) (properties : List (String × Json)) (catalog : Catalog)

theorem neverRefuses_ofAnyProperties : NeverRefuses (ofAnyProperties kind properties catalog) := by
  cases kind with
  | training =>
    refine .map (.bind (neverRefuses_decodeProperties _ _) fun given => ?_) _
    refine .bind (.optional neverRefuses_checkEpochs _) fun _ => ?_
    refine .bind (.optional neverRefuses_checkBatchSize _) fun _ => ?_
    refine .bind (.optional (neverRefuses_checkQuantization _) _) fun _ => ?_
    exact .bind (.optional (neverRefuses_checkQuantization _) _) fun _ => .ok _
  | model =>
    refine .map (.bind (neverRefuses_decodeProperties _ _) fun given => ?_) _
    exact .bind (.optional (neverRefuses_checkModel catalog) _) fun _ => .ok _
  | dataset =>
    refine .map (.bind (neverRefuses_decodeProperties _ _) fun given => ?_) _
    exact .bind (.optional neverRefuses_checkStatus _) fun _ => .ok _

theorem neverRefuses_ofProperties : NeverRefuses (ofProperties kind properties catalog) := by
  refine .bind (neverRefuses_ofAnyProperties kind properties catalog) fun patch => ?_
  dsimp only
  split
  · exact .error not_false
  · exact .ok patch

end NodePatch

/-! ### References -/

theorem neverRefuses_resolveReference (created : List String) (reference : String) :
    NeverRefuses (resolveReference created reference) := by
  unfold resolveReference
  dsimp only
  split
  · split
    · exact .ok _
    · exact .error not_false
  · exact .ok _

theorem neverRefuses_resolveNode (g : Graph) (created : List String) (reference : String) :
    NeverRefuses (resolveNode g created reference) := by
  refine .bind (neverRefuses_resolveReference created reference) fun id => ?_
  split
  · exact .ok id
  · exact .error not_false

theorem neverRefuses_resolveKind (kind : String) : NeverRefuses (resolveKind kind) := by
  unfold resolveKind
  split
  · exact .ok _
  · exact .error not_false

namespace Engine

variable (engine : Engine) (g : Graph) (created : List String)

theorem neverRefuses_resolveEnd (reference handle : String) :
    NeverRefuses (engine.resolveEnd g created reference handle) := by
  refine .bind (neverRefuses_resolveReference created reference) fun id => ?_
  split
  · exact .ok id
  · split
    · exact .ok _
    · exact .error not_false

theorem neverRefuses_resolveUpdate (request : UpdateRequest) :
    NeverRefuses (engine.resolveUpdate g created request) := by
  refine .bind (neverRefuses_resolveNode g created _) fun id => ?_
  refine .bind (neverRefuses_resolveKind _) fun requested => ?_
  split
  · exact .error not_false
  · dsimp only
    split
    · exact .error not_false
    · split
      · exact .error not_false
      · exact .bind (NodePatch.neverRefuses_ofProperties _ _ _) fun _ => .ok _

theorem neverRefuses_resolveAddition (request : AddNodeRequest) :
    NeverRefuses (engine.resolveAddition g request) := by
  refine .bind (neverRefuses_resolveKind _) fun kind => ?_
  dsimp only
  split
  · exact .error not_false
  · split
    · exact .error not_false
    · exact .ok kind

theorem neverRefuses_resolveDisconnection (request : DisconnectRequest) :
    NeverRefuses (resolveDisconnection created request) := by
  unfold resolveDisconnection
  split
  · refine .bind (neverRefuses_resolveReference created _) fun source => ?_
    exact .bind (neverRefuses_resolveReference created _) fun target => .ok _
  · exact .ok _
  · exact .error not_false

/-! ## Requests -/

variable {engine g created}

/-- A connection is only rejected if its ends are found but do not fit the handles. -/
theorem exists_of_rejected {request : ConnectRequest} {error : ToolError}
    (h : engine.resolveConnection g created request = .error error) (hrefusal : error.IsRefusal) :
    ∃ source target, g.edges.length < engine.maxEdges ∧
      engine.resolveEnd g created request.source request.sourceHandle = .ok source ∧
      engine.resolveEnd g created request.target request.targetHandle = .ok target ∧
      g.isCompatible source target request.sourceHandle request.targetHandle = false ∧
      error = rejected source target request := by
  by_cases hlimit : engine.maxEdges ≤ g.edges.length
  · rw [resolveConnection_of_full engine hlimit] at h
    cases h
    exact absurd hrefusal not_false
  · rw [resolveConnection_of_room engine hlimit] at h
    rcases bind_eq_error_iff.mp h with h | ⟨source, hsource, h⟩
    · exact absurd hrefusal (neverRefuses_resolveEnd engine g created _ _ error h)
    rcases bind_eq_error_iff.mp h with h | ⟨target, htarget, h⟩
    · exact absurd hrefusal (neverRefuses_resolveEnd engine g created _ _ error h)
    split at h
    · cases h
    · rename_i hcompatible
      cases h
      exact ⟨source, target, Nat.lt_of_not_le hlimit, hsource, htarget,
        Bool.eq_false_iff.mpr hcompatible, rfl⟩

/-- Ends that are found and do not fit the handles are rejected. -/
theorem resolveConnection_of_misfit {request : ConnectRequest} {source target : String}
    (hroom : g.edges.length < engine.maxEdges)
    (hsource : engine.resolveEnd g created request.source request.sourceHandle = .ok source)
    (htarget : engine.resolveEnd g created request.target request.targetHandle = .ok target)
    (hmisfit : g.isCompatible source target request.sourceHandle request.targetHandle = false) :
    engine.resolveConnection g created request = .error (rejected source target request) := by
  rw [resolveConnection_of_room engine (Nat.not_le_of_lt hroom)]
  refine bind_eq_error_iff.mpr (.inr ⟨source, hsource, ?_⟩)
  refine bind_eq_error_iff.mpr (.inr ⟨target, htarget, ?_⟩)
  exact if_neg (Bool.eq_false_iff.mp hmisfit)

/-- What does not connect nodes is never refused. -/
theorem neverRefuses_execute (engine : Engine) (c : Conversation Store) {request : ToolRequest}
    (h : ∀ connect, request ≠ .addConnection connect) :
    NeverRefuses (engine.execute c request).1 := by
  cases request with
  | updateNodeProperties update =>
    rw [execute, fst_updateNode]
    exact .map (neverRefuses_resolveUpdate engine _ _ update) _
  | addNode addition =>
    rw [execute, fst_addNode]
    exact .map (neverRefuses_resolveAddition engine _ addition) _
  | deleteNode deletion =>
    rw [execute, fst_deleteNode]
    exact .map (neverRefuses_resolveNode _ _ _) _
  | addConnection connect => exact absurd rfl (h connect)
  | deleteConnection disconnect =>
    simp only [execute, deleteConnection]
    split
    · rename_i error hresolve
      exact .error (neverRefuses_resolveDisconnection c.created disconnect error hresolve)
    · dsimp only
      split
      · exact .ok _
      · exact .error not_false

variable {c c' : Conversation Store}

/-- Only connections are refused, and only those that are ill typed. -/
theorem exists_of_isRefusal {request : ToolRequest} {error : ToolError}
    (h : (engine.execute c request).1 = .error error) (hrefusal : error.IsRefusal) :
    ∃ connect, request = .addConnection connect ∧
      engine.resolveConnection c.editor.graph c.created connect = .error error := by
  by_cases hconnect : ∃ connect, request = .addConnection connect
  · obtain ⟨connect, rfl⟩ := hconnect
    rw [execute, fst_addConnection] at h
    exact ⟨connect, rfl, map_eq_error_iff.mp h⟩
  · refine absurd hrefusal (neverRefuses_execute engine c (fun connect hsame => ?_) error h)
    exact hconnect ⟨connect, hsame⟩

/-- A new edge is told of by its id, which no edge had before. -/
theorem Executed.edge_of_connected {request : ToolRequest} {id source target : String}
    (h : Executed engine c request (.ok (.connected id source target)) c') :
    ∃ connect, request = .addConnection connect ∧
      engine.resolveConnection c.editor.graph c.created connect = .ok (source, target) ∧
      (∀ e ∈ c.editor.graph.edges, e.id ≠ id) ∧
      c'.editor.graph = { c.editor.graph with edges := c.editor.graph.edges ++
        [⟨id, source, target, connect.sourceHandle, connect.targetHandle⟩] } := by
  cases h with
  | connected connect source target hresolve hnew hdone =>
    -- The last edge between the nodes is the one that comes last of all.
    have hlast : lastEdgeId { c.editor.graph with edges := c.editor.graph.edges ++
        [⟨c.editor.nextEdgeId source target, source, target, connect.sourceHandle,
          connect.targetHandle⟩] } source target = c.editor.nextEdgeId source target := by
      simp [lastEdgeId, Edge.connects]
    rw [ConnectRequest.edit, Store.graph_edit_connect hdone, hlast]
    exact ⟨connect, rfl, hresolve, c.editor.nextEdgeId_free source target, rfl⟩

/-- **The engine asks for no edit that the store refuses.** Whatever the store, the request and what
was created before, no answer tells that an update was rejected or that a deletion has failed. That
a connection is rejected is answered just when there is room for it and both of its ends are found,
but the edge would not be well typed. Whenever two nodes are newly connected, the graph has one more
edge after it: the one with the id that is told, which no edge had before, from the one node to the
other at the handles that were asked for. -/
theorem execute_agrees (engine : Engine) (c : Conversation Store) (request : ToolRequest) :
    let result := (engine.execute c request).1
    let before := c.editor.graph
    let after := (engine.execute c request).2.editor.graph
    (∀ id, result ≠ .error (.updateRejected id) ∧ result ≠ .error (.deleteFailed id)) ∧
    (∀ source target sourceHandle targetHandle,
      result = .error (.connectionRejected source target sourceHandle targetHandle) ↔
        ∃ connect, request = .addConnection connect ∧ before.edges.length < engine.maxEdges ∧
          engine.resolveEnd before c.created connect.source connect.sourceHandle = .ok source ∧
          engine.resolveEnd before c.created connect.target connect.targetHandle = .ok target ∧
          connect.sourceHandle = sourceHandle ∧ connect.targetHandle = targetHandle ∧
          before.isCompatible source target sourceHandle targetHandle = false) ∧
    ∀ id source target, result = .ok (.connected id source target) →
      ∃ connect, request = .addConnection connect ∧
        engine.resolveEnd before c.created connect.source connect.sourceHandle = .ok source ∧
        engine.resolveEnd before c.created connect.target connect.targetHandle = .ok target ∧
        (∀ e ∈ before.edges, e.id ≠ id) ∧
        after = { before with edges := before.edges ++
          [⟨id, source, target, connect.sourceHandle, connect.targetHandle⟩] } := by
  intro result before after
  refine ⟨fun id => ⟨fun h => ?_, fun h => ?_⟩,
    fun source target sourceHandle targetHandle => ⟨fun h => ?_, ?_⟩, fun id source target h => ?_⟩
  · obtain ⟨connect, -, hresolve⟩ := exists_of_isRefusal h trivial
    obtain ⟨source, target, -, -, -, -, herror⟩ := exists_of_rejected hresolve trivial
    cases herror
  · obtain ⟨connect, -, hresolve⟩ := exists_of_isRefusal h trivial
    obtain ⟨source, target, -, -, -, -, herror⟩ := exists_of_rejected hresolve trivial
    cases herror
  · obtain ⟨connect, hconnect, hresolve⟩ := exists_of_isRefusal h trivial
    obtain ⟨source', target', hroom, hsource, htarget, hmisfit, herror⟩ :=
      exists_of_rejected hresolve trivial
    cases herror
    exact ⟨connect, hconnect, hroom, hsource, htarget, rfl, rfl, hmisfit⟩
  · rintro ⟨connect, rfl, hroom, hsource, htarget, rfl, rfl, hmisfit⟩
    have hresolve := resolveConnection_of_misfit hroom hsource htarget hmisfit
    exact congrArg Prod.fst (addConnection_of_error hresolve)
  · have hexecuted : Executed engine c request (.ok (.connected id source target))
        (engine.execute c request).2 := h ▸ executed engine c request
    obtain ⟨connect, hconnect, hresolve, hfree, hafter⟩ := hexecuted.edge_of_connected
    obtain ⟨hsource, htarget, -⟩ := of_resolveConnection_eq_ok hresolve
    exact ⟨connect, hconnect, hsource, htarget, hfree, hafter⟩

/-- A loaded graph has an edge with the id that a new edge between other nodes would get, so the new
edge gets another one. A connection that would not be well typed is rejected. -/
theorem execute_agrees_taken :
    let g : Graph := ⟨[⟨"d", .origin, 1, .initial .dataset⟩, ⟨"m", .origin, 2, .initial .model⟩,
        ⟨"n", .origin, 3, .initial .model⟩],
      [⟨"edge-d-m", "d", "n", "dataset-output", "model-input"⟩]⟩
    let c : Conversation Store := ⟨⟨g, 4, 4⟩, ["m"]⟩
    let engine := Engine.ofConfig ⟨[]⟩ .default
    let feed : ConnectRequest := ⟨"d", "NEW_NODE_ID", "dataset-output", "model-input"⟩
    let wrong : ConnectRequest := ⟨"m", "d", "dataset-output", "model-input"⟩
    (engine.execute c (.addConnection feed)).1 = .ok (.connected "edge-d-m-2" "d" "m") ∧
      (∀ e ∈ g.edges, e.id ≠ "edge-d-m-2") ∧
      (engine.execute c (.addConnection feed)).2.editor.graph = { g with edges := g.edges ++
        [⟨"edge-d-m-2", "d", "m", "dataset-output", "model-input"⟩] } ∧
      (engine.execute c (.addConnection wrong)).1 =
        .error (.connectionRejected "m" "d" "dataset-output" "model-input") := by
  intro g c engine feed wrong
  have hresult : (engine.execute c (.addConnection feed)).1 =
      .ok (.connected "edge-d-m-2" "d" "m") := by
    decide +kernel
  obtain ⟨-, -, hconnected⟩ := execute_agrees engine c (.addConnection feed)
  obtain ⟨connect, hconnect, -, -, hfree, hafter⟩ := hconnected _ _ _ hresult
  cases hconnect
  obtain ⟨-, hrejected, -⟩ := execute_agrees engine c (.addConnection wrong)
  refine ⟨hresult, hfree, hafter, (hrejected _ _ _ _).mpr ⟨wrong, rfl, ?_⟩⟩
  exact ⟨by decide, by decide +kernel, by decide +kernel, rfl, rfl, by decide⟩

end Engine

end FineTuning

import FineTuning.Assistant.Turn
import FineTuning.Proofs.Graph.StoreEdits

/-!
# What a call does

`Engine.Executed` lists how a request on a store can come out: it fails and changes nothing, or it
succeeds after what it refers to was resolved and at most one edit was carried out. Everything
that holds of every call is shown by cases on it.

* `executed`: every request comes out in one of these ways.
* `updateNode_of_error` and the like: what is not resolved fails with the error about it.
* `executeCall_of_error`: a call that fails leaves the conversation as it was.
* `executeCall_editor`: a call is at most one edit of the store.
-/

namespace FineTuning

/-- The edit that a request to connect asks for, its ends being resolved. -/
def ConnectRequest.edit (request : ConnectRequest) (source target : String) : StoreEdit :=
  .connect source target request.sourceHandle request.targetHandle

/-! ## Stores as graphs under edit -/

namespace GraphEditor

variable (s : Store)

@[simp] theorem graph_store : GraphEditor.graph s = s.graph := rfl

@[simp] theorem updateNode_store (id : String) (patch : NodePatch) :
    GraphEditor.updateNode s id patch = s.updateNode id patch := rfl

@[simp] theorem deleteNode_store (id : String) :
    GraphEditor.deleteNode s id = s.deleteNode id := rfl

@[simp] theorem connect_store (source target sourceHandle targetHandle : String) :
    GraphEditor.connect s source target sourceHandle targetHandle =
      s.connect source target sourceHandle targetHandle := rfl

@[simp] theorem disconnect_store (reference : EdgeReference) :
    GraphEditor.disconnect s reference = s.disconnect reference := rfl

end GraphEditor

namespace Engine

/-! ## Requests -/

/-- How a request comes out: its result, and the conversation after it. -/
inductive Executed (engine : Engine) (c : Conversation Store) :
    ToolRequest → ToolResult → Conversation Store → Prop where
  | failed (request : ToolRequest) (error : ToolError) : Executed engine c request (.error error) c
  | nodeUpdated (request : UpdateRequest) (id : String) (patch : NodePatch)
      (hresolve : engine.resolveUpdate c.editor.graph c.created request = .ok (id, patch))
      (hdone : (c.editor.perform (.updateNode id patch)).1 = true) :
      Executed engine c (.updateNodeProperties request) (.ok (.nodeUpdated id))
        { c with editor := c.editor.edit (.updateNode id patch) }
  | nodeAdded (request : AddNodeRequest) (kind : NodeKind)
      (hresolve : engine.resolveAddition c.editor.graph request = .ok kind) :
      Executed engine c (.addNode request)
        (.ok (.nodeAdded (c.editor.addNode kind request.position).1 kind))
        ⟨c.editor.edit (.addNode kind request.position),
          c.created ++ [(c.editor.addNode kind request.position).1]⟩
  | nodeDeleted (request : DeleteNodeRequest) (id : String)
      (hresolve : resolveNode c.editor.graph c.created request.nodeId = .ok id)
      (hdone : (c.editor.perform (.deleteNode id)).1 = true) :
      Executed engine c (.deleteNode request) (.ok (.nodeDeleted id))
        { c with editor := c.editor.edit (.deleteNode id) }
  | alreadyConnected (request : ConnectRequest) (source target : String)
      (hresolve : engine.resolveConnection c.editor.graph c.created request = .ok (source, target))
      (hconnected : c.editor.graph.isConnected source target = true) :
      Executed engine c (.addConnection request) (.ok (.alreadyConnected source target)) c
  | connected (request : ConnectRequest) (source target : String)
      (hresolve : engine.resolveConnection c.editor.graph c.created request = .ok (source, target))
      (hnew : c.editor.graph.isConnected source target = false)
      (hdone : (c.editor.perform (request.edit source target)).1 = true) :
      Executed engine c (.addConnection request)
        (.ok (.connected
          (lastEdgeId (c.editor.edit (request.edit source target)).graph source target)
          source target))
        { c with editor := c.editor.edit (request.edit source target) }
  | disconnected (request : DisconnectRequest) (reference : EdgeReference)
      (hresolve : resolveDisconnection c.created request = .ok reference)
      (hdone : (c.editor.perform (.disconnect reference)).1 = true) :
      Executed engine c (.deleteConnection request) (.ok (.disconnected reference))
        { c with editor := c.editor.edit (.disconnect reference) }

variable {engine : Engine} {c c' : Conversation Store} {request : ToolRequest}

/-- The last step of a request: an edit with its outcome, or a refusal that changes nothing. -/
private theorem executed_of_perform {edit : StoreEdit} {outcome : ToolOutcome} (error : ToolError)
    (hdone : (c.editor.perform edit).1 = true →
      Executed engine c request (.ok outcome) { c with editor := c.editor.edit edit }) :
    Executed engine c request
      (if (c.editor.perform edit).1 then .ok outcome else .error error)
      { c with editor := c.editor.edit edit } := by
  split
  · exact hdone ‹_›
  · rename_i h
    rw [Store.edit_of_refused (Bool.eq_false_iff.mpr h)]
    exact .failed request error

/-- **Every request comes out in one of these ways.** -/
theorem executed (engine : Engine) (c : Conversation Store) (request : ToolRequest) :
    Executed engine c request (engine.execute c request).1 (engine.execute c request).2 := by
  cases request with
  | updateNodeProperties request =>
    simp only [execute, updateNode]
    split
    · exact .failed _ _
    · rename_i id patch hresolve
      exact executed_of_perform _ (.nodeUpdated request id patch hresolve)
  | addNode request =>
    simp only [execute, addNode]
    split
    · exact .failed _ _
    · rename_i kind hresolve
      exact .nodeAdded request kind hresolve
  | deleteNode request =>
    simp only [execute, deleteNode]
    split
    · exact .failed _ _
    · rename_i id hresolve
      exact executed_of_perform _ (.nodeDeleted request id hresolve)
  | addConnection request =>
    simp only [execute, addConnection]
    split
    · exact .failed _ _
    · rename_i source target hresolve
      split
      · rename_i hconnected
        exact .alreadyConnected request source target hresolve hconnected
      · rename_i hnew
        exact executed_of_perform _
          (.connected request source target hresolve (Bool.eq_false_iff.mpr hnew))
  | deleteConnection request =>
    simp only [execute, deleteConnection]
    split
    · exact .failed _ _
    · rename_i reference hresolve
      exact executed_of_perform _ (.disconnected request reference hresolve)

namespace Executed

variable {result : ToolResult}

/-- A request that fails leaves the conversation as it was. -/
theorem eq_of_error {error : ToolError} (h : Executed engine c request (.error error) c') :
    c' = c := by
  cases h
  rfl

/-- A request is at most one edit of the store. -/
theorem editor (h : Executed engine c request result c') :
    c'.editor = c.editor ∨ ∃ edit, c'.editor = c.editor.edit edit := by
  cases h with
  | failed => exact .inl rfl
  | nodeUpdated => exact .inr ⟨_, rfl⟩
  | nodeAdded => exact .inr ⟨_, rfl⟩
  | nodeDeleted => exact .inr ⟨_, rfl⟩
  | alreadyConnected => exact .inl rfl
  | connected => exact .inr ⟨_, rfl⟩
  | disconnected => exact .inr ⟨_, rfl⟩

end Executed

/-! ## What requests are resolved to -/

section Resolved

variable {error : ToolError}

theorem updateNode_of_error {request : UpdateRequest}
    (h : engine.resolveUpdate c.editor.graph c.created request = .error error) :
    engine.updateNode c request = (.error error, c) := by
  simp only [updateNode, GraphEditor.graph_store, h]

theorem addNode_of_error {request : AddNodeRequest}
    (h : engine.resolveAddition c.editor.graph request = .error error) :
    engine.addNode c request = (.error error, c) := by
  simp only [addNode, GraphEditor.graph_store, h]

theorem deleteNode_of_error {request : DeleteNodeRequest}
    (h : resolveNode c.editor.graph c.created request.nodeId = .error error) :
    deleteNode c request = (.error error, c) := by
  simp only [deleteNode, GraphEditor.graph_store, h]

variable {request : ConnectRequest}

theorem addConnection_of_error
    (h : engine.resolveConnection c.editor.graph c.created request = .error error) :
    engine.addConnection c request = (.error error, c) := by
  simp only [addConnection, GraphEditor.graph_store, h]

/-- Nodes that are connected already stay so. -/
theorem addConnection_of_isConnected {source target : String}
    (hresolve : engine.resolveConnection c.editor.graph c.created request = .ok (source, target))
    (hconnected : c.editor.graph.isConnected source target = true) :
    engine.addConnection c request = (.ok (.alreadyConnected source target), c) := by
  simp only [addConnection, GraphEditor.graph_store, hresolve, hconnected, ↓reduceIte]

/-- Only through its ends does a connection depend on the engine. -/
theorem addConnection_congr {engine' : Engine}
    (h : engine'.resolveConnection c.editor.graph c.created request =
      engine.resolveConnection c.editor.graph c.created request) :
    engine'.addConnection c request = engine.addConnection c request := by
  simp only [addConnection, GraphEditor.graph_store, h]

end Resolved

/-! ## Calls -/

variable {call : ToolCall}

/-- A call is carried out as the request that it is decoded to. -/
theorem executeCall_of_ofCall (engine : Engine) (c : Conversation Store)
    (h : ToolRequest.ofCall call = .ok request) :
    engine.executeCall c call = engine.execute c request := by
  simp only [executeCall, h]

theorem executed_of_ofCall (engine : Engine) (c : Conversation Store)
    (h : ToolRequest.ofCall call = .ok request) :
    Executed engine c request (engine.executeCall c call).1 (engine.executeCall c call).2 := by
  rw [executeCall_of_ofCall engine c h]
  exact executed engine c request

/-- **A call that fails changes nothing,** neither the store nor the list of created nodes. -/
theorem executeCall_of_error {error : ToolError}
    (h : (engine.executeCall c call).1 = .error error) : (engine.executeCall c call).2 = c := by
  unfold executeCall at h ⊢
  split
  · rename_i request hcall
    simp only [hcall] at h
    exact (h ▸ executed engine c request).eq_of_error
  · rfl

/-- A call is at most one edit of the store. -/
theorem executeCall_editor (engine : Engine) (c : Conversation Store) (call : ToolCall) :
    (engine.executeCall c call).2.editor = c.editor ∨
      ∃ edit, (engine.executeCall c call).2.editor = c.editor.edit edit := by
  unfold executeCall
  split
  · exact (executed engine c _).editor
  · exact .inl rfl

/-- A call changes the store as an edit can. -/
theorem change_executeCall (engine : Engine) (c : Conversation Store) (call : ToolCall) :
    c.editor.Change (engine.executeCall c call).2.editor := by
  rcases executeCall_editor engine c call with h | ⟨edit, h⟩
  · rw [h]; exact .unchanged
  · rw [h]; exact c.editor.change_edit edit

end Engine

end FineTuning

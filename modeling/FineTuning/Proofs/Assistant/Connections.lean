import FineTuning.Proofs.Assistant.Reach
import FineTuning.Proofs.Graph.RoundTrip

/-!
# What an answer about a connection means

An assistant is told that two nodes are connected when it has asked for an edge that could be added,
and also when there is an edge between the nodes already. In the second case the handles of the edge
that is there do not matter, so it need not be the edge that was asked for.

* `Engine.resolveConnection_eq_ok_iff`: what is checked before nodes are connected.
* `Engine.Executed.edges_of_connected`: a new edge has the handles that were asked for.
* `Engine.exists_answering_iff`: nodes that are connected already are so at these handles just when
  one of the edges between them is well typed.
* `Engine.addConnection_answers`: both answers together.
-/

namespace FineTuning

/-- The edge leads from the source to the target at the handles that the request asks for. -/
structure ConnectRequest.AnsweredBy (request : ConnectRequest) (source target : String)
    (edge : Edge) : Prop where
  source_eq : edge.source = source
  target_eq : edge.target = target
  sourceHandle_eq : edge.sourceHandle = request.sourceHandle
  targetHandle_eq : edge.targetHandle = request.targetHandle

namespace Graph

/-- The edge joins two nodes that fit its handles. -/
def FitsIn (g : Graph) (edge : Edge) : Prop :=
  g.isCompatible edge.source edge.target edge.sourceHandle edge.targetHandle = true

end Graph

namespace Engine

variable {engine : Engine} {c c' : Conversation Store} {request : ConnectRequest}
  {source target : String}

/-- Nodes can be connected if there is room for an edge, both ends are found, and they fit the
handles. -/
theorem resolveConnection_eq_ok_iff {g : Graph} {created : List String} :
    engine.resolveConnection g created request = .ok (source, target) ↔
      g.edges.length < engine.maxEdges ∧
        engine.resolveEnd g created request.source request.sourceHandle = .ok source ∧
        engine.resolveEnd g created request.target request.targetHandle = .ok target ∧
        g.isCompatible source target request.sourceHandle request.targetHandle = true := by
  unfold resolveConnection
  split
  · rename_i hfull
    exact ⟨nofun, fun h => absurd hfull (Nat.not_le_of_lt h.1)⟩
  · rename_i hroom
    constructor
    · intro h
      obtain ⟨-, -, h⟩ := bind_eq_ok_iff.mp h
      obtain ⟨source', hsource, h⟩ := bind_eq_ok_iff.mp h
      obtain ⟨target', htarget, h⟩ := bind_eq_ok_iff.mp h
      split at h
      · rename_i hcompatible
        cases h
        exact ⟨Nat.lt_of_not_le hroom, hsource, htarget, hcompatible⟩
      · cases h
    · rintro ⟨-, hsource, htarget, hcompatible⟩
      refine bind_eq_ok_iff.mpr ⟨source, hsource, ?_⟩
      exact bind_eq_ok_iff.mpr ⟨target, htarget, if_pos hcompatible⟩

/-- The ends of a connection are what is given for them, and they fit the handles. -/
theorem of_resolveConnection_eq_ok {g : Graph} {created : List String}
    (h : engine.resolveConnection g created request = .ok (source, target)) :
    engine.resolveEnd g created request.source request.sourceHandle = .ok source ∧
      engine.resolveEnd g created request.target request.targetHandle = .ok target ∧
      g.isCompatible source target request.sourceHandle request.targetHandle = true :=
  (resolveConnection_eq_ok_iff.mp h).2

/-- A new edge has the handles that were asked for, and the id that the outcome tells. -/
theorem Executed.edges_of_connected {id : String}
    (h : Executed engine c (.addConnection request) (.ok (.connected id source target)) c') :
    ∃ edge, edge.id = id ∧ request.AnsweredBy source target edge ∧
      c'.editor.graph = { c.editor.graph with edges := c.editor.graph.edges ++ [edge] } := by
  cases h with
  | connected request source target hresolve hnew hdone =>
    rw [ConnectRequest.edit, Store.graph_edit_connect hdone]
    refine ⟨_, ?_, ⟨rfl, rfl, rfl, rfl⟩, rfl⟩
    -- The last edge between the nodes is the one that comes last of all.
    simp [lastEdgeId, Edge.connects]

/-- Nodes that are connected already are so at the handles that were asked for just when one of the
edges between them is well typed. -/
theorem exists_answering_iff {g : Graph}
    (h : g.isCompatible source target request.sourceHandle request.targetHandle = true) :
    (∃ e ∈ g.edges, request.AnsweredBy source target e) ↔
      ∃ e ∈ g.edges, e.source = source ∧ e.target = target ∧ g.FitsIn e := by
  constructor
  · rintro ⟨e, he, hsource, htarget, hsourceHandle, htargetHandle⟩
    refine ⟨e, he, hsource, htarget, ?_⟩
    rw [Graph.FitsIn, hsource, htarget, hsourceHandle, htargetHandle]
    exact h
  · rintro ⟨e, he, rfl, rfl, hfits⟩
    obtain ⟨hsourceHandle, htargetHandle⟩ := Graph.handles_unique_of_isCompatible hfits h
    exact ⟨e, he, rfl, rfl, hsourceHandle, htargetHandle⟩

/-- Where nodes are connected already, nothing changes. -/
theorem Executed.of_alreadyConnected
    (h : Executed engine c (.addConnection request) (.ok (.alreadyConnected source target)) c') :
    c' = c ∧ (∃ e ∈ c.editor.graph.edges, e.source = source ∧ e.target = target) ∧
      ((∃ e ∈ c.editor.graph.edges, request.AnsweredBy source target e) ↔
        ∃ e ∈ c.editor.graph.edges,
          e.source = source ∧ e.target = target ∧ c.editor.graph.FitsIn e) := by
  cases h with
  | alreadyConnected request source target hresolve hconnected =>
    exact ⟨rfl, Graph.isConnected_iff.mp hconnected,
      exists_answering_iff (of_resolveConnection_eq_ok hresolve).2.2⟩

/-- Among well-typed edges there is the one that was asked for, once the nodes are connected. -/
theorem Executed.exists_answering {result : ToolResult}
    (h : Executed engine c (.addConnection request) result c')
    (htyped : c.editor.graph.IsWellTyped)
    (hresult : (∃ id, result = .ok (.connected id source target)) ∨
      result = .ok (.alreadyConnected source target)) :
    ∃ e ∈ c'.editor.graph.edges, request.AnsweredBy source target e := by
  rcases hresult with ⟨id, rfl⟩ | rfl
  · obtain ⟨edge, -, hedge, hafter⟩ := h.edges_of_connected
    rw [hafter]
    exact ⟨edge, List.mem_append_right _ (List.mem_singleton_self edge), hedge⟩
  · obtain ⟨rfl, ⟨e, he, hsource, htarget⟩, hiff⟩ := h.of_alreadyConnected
    exact hiff.mpr ⟨e, he, hsource, htarget, htyped e he⟩

/-- **What it means to be told that nodes are connected.** If the connection is new, the graph has
one more edge: it joins the nodes at the handles that were asked for, and has the id that is told.
If there was a connection already, nothing changes, and an edge joins the nodes at whatever handles:
there is one at the handles that were asked for just when one of the edges between the nodes is well
typed. In a graph in which all edges are well typed, both answers thus mean that the edge that was
asked for is there. -/
theorem addConnection_answers (engine : Engine) (c : Conversation Store) {call : ToolCall}
    {request : ConnectRequest} (hcall : ToolRequest.ofCall call = .ok (.addConnection request)) :
    let result := (engine.executeCall c call).1
    let before := c.editor.graph
    let after := (engine.executeCall c call).2.editor.graph
    (∀ id source target, result = .ok (.connected id source target) →
      ∃ edge, edge.id = id ∧ request.AnsweredBy source target edge ∧
        after = { before with edges := before.edges ++ [edge] }) ∧
    (∀ source target, result = .ok (.alreadyConnected source target) →
      (engine.executeCall c call).2 = c ∧
      (∃ e ∈ before.edges, e.source = source ∧ e.target = target) ∧
      ((∃ e ∈ before.edges, request.AnsweredBy source target e) ↔
        ∃ e ∈ before.edges, e.source = source ∧ e.target = target ∧ before.FitsIn e)) ∧
    (before.IsWellTyped → ∀ source target,
      ((∃ id, result = .ok (.connected id source target)) ∨
        result = .ok (.alreadyConnected source target)) →
      ∃ e ∈ after.edges, request.AnsweredBy source target e) := by
  intro result before after
  have hexecuted : Executed engine c (.addConnection request) result (engine.executeCall c call).2 :=
    executed_of_ofCall engine c hcall
  refine ⟨fun id source target h => ?_, fun source target h => ?_, fun htyped source target h => ?_⟩
  · exact (h ▸ hexecuted).edges_of_connected
  · exact (h ▸ hexecuted).of_alreadyConnected
  · exact hexecuted.exists_answering htyped h

/-- Two edges lead from the dataset to the model, of which the later one is the one that is asked
for. -/
theorem addConnection_answers_second :
    let g : Graph := ⟨[⟨"d", .origin, 1, .initial .dataset⟩, ⟨"m", .origin, 2, .initial .model⟩],
      [⟨"e", "d", "m", "out", "in"⟩, ⟨"f", "d", "m", "dataset-output", "model-input"⟩]⟩
    let c : Conversation Store := ⟨⟨g, 3, 3⟩, []⟩
    let engine := Engine.ofConfig ⟨[]⟩ .default
    let call : ToolCall := ⟨"addConnection", .object [("source", .string " d"),
      ("targetId", .string "m"), ("sourceHandle", .string "dataset-output"),
      ("targetHandle", .string "model-input")]⟩
    (engine.executeCall c call).1 = .ok (.alreadyConnected "d" "m") ∧
      (engine.executeCall c call).2 = c ∧
      ∃ e ∈ g.edges, e.source = "d" ∧ e.target = "m" ∧ e.sourceHandle = "dataset-output" ∧
        e.targetHandle = "model-input" := by
  intro g c engine call
  have hcall : ToolRequest.ofCall call =
      .ok (.addConnection ⟨" d", "m", "dataset-output", "model-input"⟩) := rfl
  have hresult : (engine.executeCall c call).1 = .ok (.alreadyConnected "d" "m") := by
    decide +kernel
  obtain ⟨hsame, -, hiff⟩ := (addConnection_answers engine c hcall).2.1 "d" "m" hresult
  have hfits : g.FitsIn ⟨"f", "d", "m", "dataset-output", "model-input"⟩ := by
    show g.isCompatible _ _ _ _ = true
    decide
  obtain ⟨e, he, hsource, htarget, hsourceHandle, htargetHandle⟩ :=
    hiff.mpr ⟨_, List.mem_of_mem_tail List.mem_cons_self, rfl, rfl, hfits⟩
  exact ⟨hresult, hsame, e, he, hsource, htarget, hsourceHandle, htargetHandle⟩

/-- A graph is accepted from its text and loaded with an edge whose handles are of no kind of edge.
An assistant that asks for the edge between the same nodes is told that they are connected already,
and the edge that it has asked for is not there. -/
theorem alreadyConnected_at_other_handles :
    let g : Graph := ⟨[⟨"d", .origin, 1, .initial .dataset⟩, ⟨"m", .origin, 2, .initial .model⟩],
      [⟨"e", "d", "m", "out", "in"⟩]⟩
    let c : Conversation Store := ⟨⟨g, 3, 3⟩, []⟩
    let engine := Engine.ofConfig ⟨[]⟩ .default
    let call : ToolCall := ⟨"addConnection", .object [("sourceId", .string "d"),
      ("targetId", .string "m"), ("sourceHandle", .string "dataset-output"),
      ("targetHandle", .string "model-input")]⟩
    let request : ConnectRequest := ⟨"d", "m", "dataset-output", "model-input"⟩
    Graph.ofText g.toText = .ok g ∧ Store.ofGraph g = .ok c.editor ∧
      ToolRequest.ofCall call = .ok (.addConnection request) ∧
      (engine.executeCall c call).1 = .ok (.alreadyConnected "d" "m") ∧
      ¬∃ e ∈ (engine.executeCall c call).2.editor.graph.edges,
        request.AnsweredBy "d" "m" e := by
  intro g c engine call request
  have hread : Graph.ofText g.toText = .ok g := by
    refine Graph.ofText_toText ⟨by decide, by decide, by decide⟩ (by decide) ?_ ?_
    · decide +kernel
    · decide +kernel
  have hedges : (engine.executeCall c call).2.editor.graph.edges =
      [⟨"e", "d", "m", "out", "in"⟩] := by
    decide +kernel
  refine ⟨hread, rfl, rfl, by decide +kernel, ?_⟩
  rw [hedges]
  rintro ⟨e, he, -, -, hsourceHandle, -⟩
  obtain rfl := List.mem_singleton.mp he
  exact absurd hsourceHandle (by decide)

end Engine

end FineTuning

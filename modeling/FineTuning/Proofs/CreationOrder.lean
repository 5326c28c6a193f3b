import FineTuning.Proofs.Assistant.Refusals
import FineTuning.Proofs.Graph.CanvasExports
import FineTuning.Proofs.Graph.TrainingPath
import FineTuning.Proofs.StoreRuns

/-!
# The latest nodes

Every node has its place in the order of creation. In a store that began empty or with a canvas
export, the nodes of the graph stand in this order, whatever was deleted, taken back or reloaded.
So recovery, which compares the places, chooses the node that stands last. It finds one whenever
there is one, and then a connection between nodes of the right kinds cannot fail.

* `Store.Change.isInCreationOrder`, `CanvasExport.isInCreationOrder_of_toGraph`: edits keep the
  order, and exports are numbered in it.
* `Graph.IsLatest`, `Graph.IsInCreationOrder.latestOfKind_eq_some_iff`: the node that is chosen.
* `Engine.addConnection_recovered`: ends of the right kinds, or lost ones, can be connected.
* `StoreHistory.run_latestOfKind`: all this at the end of every run.
-/

namespace FineTuning

/-! ## Last elements -/

section LastElements

variable {α : Type} {l : List α} {x : α}

/-- The element is the last one of the list with the property. -/
def IsLast (p : α → Prop) (l : List α) (x : α) : Prop :=
  p x ∧ ∃ earlier later, l = earlier ++ x :: later ∧ ∀ y ∈ later, ¬p y

theorem IsLast.mem {p : α → Prop} (h : IsLast p l x) : x ∈ l := by
  obtain ⟨-, earlier, later, rfl, -⟩ := h
  exact List.mem_append_right _ List.mem_cons_self

/-- Looking from the end finds the last element. -/
theorem find?_reverse_eq_some_iff {p : α → Bool} :
    l.reverse.find? p = some x ↔ IsLast (p · = true) l x := by
  rw [List.find?_eq_some_iff_append, IsLast]
  refine and_congr_right fun _ => ?_
  constructor
  · rintro ⟨later, earlier, hl, hlater⟩
    refine ⟨earlier.reverse, later.reverse, ?_, ?_⟩
    · rw [← List.reverse_reverse l, hl]
      simp
    · intro y hy
      simpa using hlater y (List.mem_reverse.mp hy)
  · rintro ⟨earlier, later, rfl, hlater⟩
    refine ⟨later.reverse, earlier.reverse, by simp, ?_⟩
    intro y hy
    simpa using hlater y (List.mem_reverse.mp hy)

end LastElements

/-! ## The order of creation -/

namespace Graph

/-- The nodes stand in the order in which they were created. -/
def IsInCreationOrder (g : Graph) : Prop :=
  g.nodes.Pairwise fun a b => a.createdSeq < b.createdSeq

theorem isInCreationOrder_iff {g : Graph} :
    g.IsInCreationOrder ↔ (g.nodes.map (·.createdSeq)).Pairwise (· < ·) :=
  List.pairwise_map.symm

end Graph

/-- **Edits keep the order.** A new node comes after all others. -/
theorem Store.Change.isInCreationOrder {s s' : Store} (hc : s.Change s') (h : s.IsSound)
    (horder : s.graph.IsInCreationOrder) : s'.graph.IsInCreationOrder := by
  cases hc with
  | unchanged | edgeAdded | edgesDeleted => exact horder
  | nodeAdded kind position number hnumber hfree =>
    refine List.pairwise_append.mpr ⟨horder, List.pairwise_singleton _ _, ?_⟩
    intro node hnode added hadded
    rw [List.mem_singleton.mp hadded]
    exact h.createdSeq_lt node hnode
  | nodeUpdated node patch data =>
    rw [Graph.isInCreationOrder_iff, Graph.map_nodes_setData _ _ _ fun _ => rfl]
    exact Graph.isInCreationOrder_iff.mp horder
  | nodeDeleted => exact horder.sublist List.eraseP_sublist

/-! ## Canvas exports -/

/-- Nodes are numbered one after the other. -/
theorem CanvasNode.createdSeq_of_toNodes {nodes : List CanvasNode} {createdSeq : Nat}
    {result : List Node} (h : toNodes createdSeq nodes = .ok result) :
    result.map (·.createdSeq) = List.range' createdSeq nodes.length := by
  induction nodes generalizing createdSeq result with
  | nil =>
    cases h
    rfl
  | cons node rest ih =>
    obtain ⟨first, hfirst, h⟩ := bind_eq_ok_iff.mp h
    obtain ⟨others, hothers, h⟩ := bind_eq_ok_iff.mp h
    cases h
    obtain ⟨-, data, -, -, rfl⟩ := toNode_eq_ok_iff.mp hfirst
    rw [List.map_cons, ih hothers, List.length_cons, List.range'_succ]

theorem CanvasExport.isInCreationOrder_of_toGraph {canvas : CanvasExport} {g : Graph}
    (h : canvas.toGraph = .ok g) : g.IsInCreationOrder := by
  obtain ⟨hnodes, -, -⟩ := toGraph_eq_ok_iff.mp h
  rw [Graph.isInCreationOrder_iff, CanvasNode.createdSeq_of_toNodes hnodes]
  exact List.pairwise_lt_range'

/-! ## The node that is chosen -/

namespace Recovery

/-- Among nodes in order, the newest stands last. -/
theorem newest?_eq_getLast? {nodes : List Node}
    (h : nodes.Pairwise fun a b => a.createdSeq < b.createdSeq) :
    newest? nodes = nodes.getLast? := by
  match nodes with
  | [] => rfl
  | first :: rest =>
    induction rest generalizing first with
    | nil => rfl
    | cons second rest ih =>
      obtain ⟨hfirst, hrest⟩ := List.pairwise_cons.mp h
      have hle := Nat.le_of_lt (hfirst second List.mem_cons_self)
      have hpass : newest? (first :: second :: rest) = newest? (second :: rest) := by
        simp only [newest?, List.foldl_cons, if_pos hle]
      rw [hpass, ih second hrest, List.getLast?_cons_cons]

theorem isSome_newest? (nodes : List Node) : (newest? nodes).isSome = true ↔ nodes ≠ [] := by
  cases nodes with
  | nil => simp [newest?]
  | cons => simp [newest?]

end Recovery

namespace Graph

/-- The latest node of a kind, in a conversation in which these nodes were created. -/
inductive IsLatest (g : Graph) (created : List String) (kind : NodeKind) : String → Prop
  /-- The last of those created that is in the graph and of the kind. -/
  | ofConversation {id : String} (hlast : IsLast (g.HasKind · kind) created id) :
    g.IsLatest created kind id
  /-- If there is none, the last of the kind in the graph. -/
  | ofGraph {node : Node} (hnone : ∀ id ∈ created, ¬g.HasKind id kind)
    (hlast : IsLast (·.kind = kind) g.nodes node) : g.IsLatest created kind node.id

variable {g : Graph} {created : List String} {kind : NodeKind} {id : String}

theorem IsLatest.hasKind (h : g.IsLatest created kind id) : g.HasKind id kind := by
  cases h with
  | ofConversation hlast => exact hlast.1
  | ofGraph hnone hlast => exact ⟨_, hlast.mem, rfl, hlast.1⟩

/-- A node of a kind is found whenever there is one. -/
theorem isSome_latestOfKind_iff (hids : g.nodeIds.Nodup) :
    (Recovery.latestOfKind g created kind).isSome = true ↔ ∃ node ∈ g.nodes, node.kind = kind := by
  have hnewest : (Recovery.newest? (g.nodesOfKind kind)).isSome = true ↔
      ∃ node ∈ g.nodes, node.kind = kind := by
    rw [Recovery.isSome_newest?, nodesOfKind, ne_eq, List.filter_eq_nil_iff]
    simp
  rw [Recovery.latestOfKind, Option.isSome_or, Option.isSome_map, Bool.or_eq_true, hnewest,
    or_iff_right_iff_imp, List.find?_isSome]
  rintro ⟨id, -, hkind⟩
  obtain ⟨node, hnode, -, hkind⟩ := (kindOf?_eq_some_iff hids).mp (beq_iff_eq.mp hkind)
  exact ⟨node, hnode, hkind⟩

theorem find?_created_eq_some_iff (hids : g.nodeIds.Nodup) :
    created.reverse.find? (g.kindOf? · == some kind) = some id ↔
      IsLast (g.HasKind · kind) created id := by
  have hkind : ∀ id, (g.kindOf? id == some kind) = true ↔ g.HasKind id kind := by
    intro id
    rw [beq_iff_eq, kindOf?_eq_some_iff hids, HasKind]
  rw [find?_reverse_eq_some_iff]
  simp only [hkind]

/-- Where nodes stand in order, the newest one of a kind is the last one. -/
theorem IsInCreationOrder.newest?_eq_some_iff (h : g.IsInCreationOrder) {node : Node} :
    Recovery.newest? (g.nodesOfKind kind) = some node ↔ IsLast (·.kind = kind) g.nodes node := by
  rw [nodesOfKind, Recovery.newest?_eq_getLast? (h.filter _), List.getLast?_filter,
    find?_reverse_eq_some_iff]
  simp only [beq_iff_eq]

/-- **Recovery chooses the latest node,** in a graph whose nodes stand in order. -/
theorem IsInCreationOrder.latestOfKind_eq_some_iff (h : g.IsInCreationOrder)
    (hids : g.nodeIds.Nodup) :
    Recovery.latestOfKind g created kind = some id ↔ g.IsLatest created kind id := by
  rw [Recovery.latestOfKind]
  cases hcreated : created.reverse.find? (g.kindOf? · == some kind) with
  | some last =>
    have hlast := (find?_created_eq_some_iff hids).mp hcreated
    rw [Option.some_or, Option.some.injEq]
    constructor
    · rintro rfl
      exact .ofConversation hlast
    · rintro (hlast' | ⟨hnone, -⟩)
      · have hsame := (find?_created_eq_some_iff hids).mpr hlast'
        exact Option.some.inj (hcreated.symm.trans hsame)
      · exact absurd hlast.1 (hnone last hlast.mem)
  | none =>
    rw [Option.none_or, Option.map_eq_some_iff]
    constructor
    · rintro ⟨node, hnode, rfl⟩
      refine .ofGraph (fun id hid hkind => ?_) (h.newest?_eq_some_iff.mp hnode)
      have hpassed := List.find?_eq_none.mp hcreated id (List.mem_reverse.mpr hid)
      exact hpassed (beq_iff_eq.mpr ((kindOf?_eq_some_iff hids).mpr hkind))
    · rintro (hlast | ⟨-, hlast⟩)
      · rw [(find?_created_eq_some_iff hids).mpr hlast] at hcreated
        cases hcreated
      · exact ⟨_, h.newest?_eq_some_iff.mpr hlast, rfl⟩

/-- The reference stands for a node of the kind, or for none of the graph. -/
def AdmitsReference (g : Graph) (created : List String) (reference : String) (kind : NodeKind) :
    Prop :=
  ∃ id, resolveReference created reference = .ok id ∧ (id ∈ g.nodeIds → g.HasKind id kind)

end Graph

/-! ## Connections -/

namespace Engine

variable {engine : Engine} {g : Graph} {c : Conversation Store} {created : List String}
  {request : ConnectRequest}

/-- An end is found or recovered, and it is of the kind that the handle implies. -/
theorem exists_resolveEnd (hrecovery : engine.recovery = some .latestOfKind)
    (horder : g.IsInCreationOrder) (hids : g.nodeIds.Nodup) {reference : String} (handle : Handle)
    (hreference : g.AdmitsReference created reference handle.nodeKind)
    (hexists : ∃ node ∈ g.nodes, node.kind = handle.nodeKind) :
    ∃ id, engine.resolveEnd g created reference handle.name = .ok id ∧
      g.HasKind id handle.nodeKind := by
  obtain ⟨known, hknown, hkind⟩ := hreference
  by_cases hmem : known ∈ g.nodeIds
  · exact ⟨known, engine.resolveEnd_of_found hknown hmem _, hkind hmem⟩
  · have hsome : (Recovery.latestOfKind g created handle.nodeKind).isSome = true :=
      (Graph.isSome_latestOfKind_iff hids).mpr hexists
    obtain ⟨id, hid⟩ := Option.isSome_iff_exists.mp hsome
    have hrecover : engine.recover? g created handle.name = some id := by
      simp only [recover?, hrecovery, impliedKind?_name, Option.bind_eq_bind, Option.bind_some]
      exact hid
    refine ⟨id, ?_, ((horder.latestOfKind_eq_some_iff hids).mp hid).hasKind⟩
    rw [resolveEnd_of_lost hknown hmem, hrecover]

/-- What fits is connected, be it before or now. -/
theorem addConnection_of_resolveConnection {source target : String}
    (hresolve : engine.resolveConnection c.editor.graph c.created request = .ok (source, target)) :
    (engine.addConnection c request).1 = .ok (.alreadyConnected source target) ∨
      ∃ id, (engine.addConnection c request).1 = .ok (.connected id source target) := by
  rw [fst_addConnection, hresolve]
  simp only [Except.map]
  split
  · exact .inl rfl
  · exact .inr ⟨_, rfl⟩

/-- **Ends that may be lost can be connected.** Where there is room for an edge and a node of each
of the two kinds, recovery lets every connection succeed whose references stand for nodes of the
right kinds, or for none. -/
theorem addConnection_recovered (hrecovery : engine.recovery = some .latestOfKind)
    (horder : c.editor.graph.IsInCreationOrder) (hids : c.editor.graph.nodeIds.Nodup)
    (hroom : c.editor.graph.edges.length < engine.maxEdges) {kind : EdgeKind}
    (hsourceHandle : request.sourceHandle = kind.handles.1.name)
    (htargetHandle : request.targetHandle = kind.handles.2.name)
    (hsource : c.editor.graph.AdmitsReference c.created request.source kind.endpointKinds.1)
    (htarget : c.editor.graph.AdmitsReference c.created request.target kind.endpointKinds.2)
    (hsources : ∃ node ∈ c.editor.graph.nodes, node.kind = kind.endpointKinds.1)
    (htargets : ∃ node ∈ c.editor.graph.nodes, node.kind = kind.endpointKinds.2) :
    ∃ source target, (engine.addConnection c request).1 = .ok (.alreadyConnected source target) ∨
      ∃ id, (engine.addConnection c request).1 = .ok (.connected id source target) := by
  obtain ⟨source, hsourceEnd, hsourceKind⟩ :=
    exists_resolveEnd hrecovery horder hids kind.handles.1 hsource hsources
  obtain ⟨target, htargetEnd, htargetKind⟩ :=
    exists_resolveEnd hrecovery horder hids kind.handles.2 htarget htargets
  have hsourceOf := (Graph.kindOf?_eq_some_iff hids).mpr hsourceKind
  have htargetOf := (Graph.kindOf?_eq_some_iff hids).mpr htargetKind
  have hne : source ≠ target := by
    rintro rfl
    rw [hsourceOf] at htargetOf
    cases kind <;> cases htargetOf
  have hcompatible : c.editor.graph.isCompatible source target request.sourceHandle
      request.targetHandle = true :=
    Graph.isCompatible_iff.mpr ⟨hne, kind, hsourceHandle, htargetHandle, hsourceOf, htargetOf⟩
  rw [← hsourceHandle] at hsourceEnd
  rw [← htargetHandle] at htargetEnd
  exact ⟨source, target, addConnection_of_resolveConnection
    (resolveConnection_eq_ok_iff.mpr ⟨hroom, hsourceEnd, htargetEnd, hcompatible⟩)⟩

end Engine

/-! ## Runs -/

/-- The store is new, or that of a canvas export. -/
def Store.IsNewOrImported (s : Store) : Prop :=
  s = .empty ∨ ∃ canvas g, CanvasExport.toGraph canvas = .ok g ∧ Store.ofGraph g = .ok s

/-- What holds of a store in such a run: it is sound, and its nodes stand in order. -/
structure Store.IsOrdered (s : Store) : Prop extends s.IsSound where
  order : s.graph.IsInCreationOrder

namespace Store.IsOrdered

variable {s s' : Store}

theorem change (h : s.IsOrdered) (hc : s.Change s') : s'.IsOrdered :=
  ⟨hc.isSound h.toIsSound, hc.isInCreationOrder h.toIsSound h.order⟩

theorem reload (h : s.IsOrdered) : ∃ s', Store.ofGraph s.graph = .ok s' ∧ s'.IsOrdered := by
  obtain ⟨s', hs', hgraph, hsound⟩ := Store.exists_ofGraph h.integrity
  refine ⟨s', hs', hsound, ?_⟩
  rw [hgraph]
  exact h.order

end Store.IsOrdered

theorem Store.IsNewOrImported.isOrdered {s : Store} (h : s.IsNewOrImported) : s.IsOrdered := by
  rcases h with rfl | ⟨canvas, g, hcanvas, hg⟩
  · exact ⟨Store.isSound_empty, List.Pairwise.nil⟩
  · refine ⟨Store.IsStart.isSound (.inr ⟨g, hg⟩), ?_⟩
    rw [Store.graph_of_ofGraph hg]
    exact CanvasExport.isInCreationOrder_of_toGraph hcanvas

namespace StoreHistory

/-- Every such run can be carried out, and at its end the nodes stand in order. -/
theorem run_isOrdered {start : Store} (hstart : start.IsNewOrImported)
    (actions : List StoreAction) :
    ∃ h, (begin start).run actions = .ok h ∧ h.current.IsOrdered :=
  run_keeps hstart.isOrdered (by simp [begin]) fun action _ =>
    keeps_of_change (fun hc h => h.change hc) (fun h => h.reload) action

/-- **Recovery chooses the latest node.** Whatever was done with a store since it was new or that of
a canvas export, recovery finds a node of a kind just when there is one: of the nodes created in the
conversation the last one that is still there and of the kind, and if there is none the last one in
the graph. So with recovery and room for one more edge, a call to connect nodes at the handles of a
kind of edge cannot fail in a graph with nodes of both of its kinds, if each of the two references
stands for a node of the kind or for none. -/
theorem run_latestOfKind {start : Store} (hstart : start.IsNewOrImported)
    (actions : List StoreAction) :
    ∃ h, (begin start).run actions = .ok h ∧
      (∀ created kind,
        ((Recovery.latestOfKind h.current.graph created kind).isSome = true ↔
          ∃ node ∈ h.current.graph.nodes, node.kind = kind) ∧
        ∀ id, Recovery.latestOfKind h.current.graph created kind = some id ↔
          h.current.graph.IsLatest created kind id) ∧
      ∀ (engine : Engine) (created : List String) (call : ToolCall) (request : ConnectRequest)
        (kind : EdgeKind),
        engine.recovery = some .latestOfKind →
        h.current.graph.edges.length < engine.maxEdges →
        ToolRequest.ofCall call = .ok (.addConnection request) →
        request.sourceHandle = kind.handles.1.name → request.targetHandle = kind.handles.2.name →
        h.current.graph.AdmitsReference created request.source kind.endpointKinds.1 →
        h.current.graph.AdmitsReference created request.target kind.endpointKinds.2 →
        (∃ node ∈ h.current.graph.nodes, node.kind = kind.endpointKinds.1) →
        (∃ node ∈ h.current.graph.nodes, node.kind = kind.endpointKinds.2) →
        ∃ source target,
          (engine.executeCall ⟨h.current, created⟩ call).1 =
            .ok (.alreadyConnected source target) ∨
          ∃ id, (engine.executeCall ⟨h.current, created⟩ call).1 =
            .ok (.connected id source target) := by
  obtain ⟨h, hrun, hordered⟩ := run_isOrdered hstart actions
  have hids := hordered.integrity.nodup_nodeIds
  refine ⟨h, hrun, fun created kind => ⟨Graph.isSome_latestOfKind_iff hids, fun id =>
    hordered.order.latestOfKind_eq_some_iff hids⟩, ?_⟩
  intro engine created call request kind hrecovery hroom hcall hsourceHandle htargetHandle hsource
    htarget hsources htargets
  rw [Engine.executeCall_of_ofCall engine _ hcall]
  exact Engine.addConnection_recovered hrecovery hordered.order hids hroom hsourceHandle
    htargetHandle hsource htarget hsources htargets

/-- An export of which the last model is deleted, after one more was added, deleted and brought
back. Recovery passes over the deleted one, which was created last in the conversation; and both
ends of a connection are found, although one reference stands for the deleted model and the other
for nothing. -/
theorem run_latestOfKind_deleted :
    let canvas : CanvasExport := ⟨[⟨"d", "dataset", .origin, .null⟩,
      ⟨"m", "modelNode", .origin, .null⟩, ⟨"n", "model", .origin, .null⟩], []⟩
    let start : Store := ⟨⟨[⟨"d", .origin, 1, .initial .dataset⟩,
      ⟨"m", .origin, 2, .initial .model⟩, ⟨"n", .origin, 3, .initial .model⟩], []⟩, 4, 4⟩
    let actions : List StoreAction := [.edit (.addNode .model .origin),
      .edit (.deleteNode "model-4"), .restore 0, .edit (.deleteNode "n"), .reload]
    let engine := Engine.ofConfig ⟨[]⟩ .default
    let call : ToolCall := ⟨"addConnection", .object [("source", .string "my dataset"),
      ("target", .string "NEW_NODE_ID"), ("sourceHandle", .string "dataset-output"),
      ("targetHandle", .string "model-input")]⟩
    canvas.toGraph = .ok start.graph ∧ Store.ofGraph start.graph = .ok start ∧
      ∃ h, (begin start).run actions = .ok h ∧
        h.current.graph.IsLatest ["m", "n"] .model "m" ∧
        h.current.graph.IsLatest ["n"] .model "model-4" ∧
        ∃ source target,
          (engine.executeCall ⟨h.current, ["m", "n"]⟩ call).1 =
            .ok (.alreadyConnected source target) ∨
          ∃ id, (engine.executeCall ⟨h.current, ["m", "n"]⟩ call).1 =
            .ok (.connected id source target) := by
  intro canvas start actions engine call
  have hcanvas : canvas.toGraph = .ok start.graph := rfl
  have hload : Store.ofGraph start.graph = .ok start := rfl
  obtain ⟨h, hrun, hlatest, hconnect⟩ :=
    run_latestOfKind (.inr ⟨canvas, start.graph, hcanvas, hload⟩) actions
  have hgraph : h.current.graph = ⟨[⟨"d", .origin, 1, .initial .dataset⟩,
      ⟨"m", .origin, 2, .initial .model⟩, ⟨"model-4", .origin, 4, .initial .model⟩], []⟩ := by
    have hreached : ((begin start).run actions).map (·.current.graph) =
        .ok ⟨[⟨"d", .origin, 1, .initial .dataset⟩, ⟨"m", .origin, 2, .initial .model⟩,
          ⟨"model-4", .origin, 4, .initial .model⟩], []⟩ := by
      decide +kernel
    rw [hrun] at hreached
    exact Except.ok.inj hreached
  have hlost : ∀ id ∈ ["my dataset", "n"], id ∉ h.current.graph.nodeIds := by
    rw [hgraph]
    decide
  refine ⟨hcanvas, hload, h, hrun, ?_, ?_, ?_⟩
  · refine ((hlatest ["m", "n"] .model).2 "m").mp ?_
    rw [hgraph]
    decide +kernel
  · refine ((hlatest ["n"] .model).2 "model-4").mp ?_
    rw [hgraph]
    decide +kernel
  · refine hconnect engine ["m", "n"] call _ .datasetToModel rfl ?_ rfl rfl rfl ?_ ?_ ?_ ?_
    · rw [hgraph]
      decide
    · exact ⟨"my dataset", rfl, fun hid => absurd hid (hlost _ List.mem_cons_self)⟩
    · exact ⟨"n", rfl, fun hid => absurd hid (hlost _ (List.mem_of_mem_tail List.mem_cons_self))⟩
    · exact ⟨⟨"d", .origin, 1, .initial .dataset⟩, by simp [hgraph], rfl⟩
    · exact ⟨⟨"m", .origin, 2, .initial .model⟩, by simp [hgraph], rfl⟩

end StoreHistory

end FineTuning

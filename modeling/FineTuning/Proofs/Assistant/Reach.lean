import FineTuning.Proofs.Assistant.Patches
import FineTuning.Proofs.Assistant.Turns

/-!
# What assistants cannot touch

However its calls are made up, an assistant reaches only so far into a graph. `Graph.Within` says
how far, by the outcomes of the calls: nodes stay in order but for those that were deleted, keep all
fields that assistants may not write, and keep everything if they are locked; new nodes and edges
come last.

* `Graph.Within.setData`, `Graph.Within.append_node`, and so on: what one request may do.
* `Graph.Within.trans`: what is done one after the other stays within all of the outcomes.
* `Engine.Executed.within`: a request stays within its outcome.
* `Engine.calls_within`: calls and turns of any length stay within their outcomes.
-/

namespace FineTuning

/-! ## Nodes -/

/-- The data of a node with other values in the fields that assistants may write. -/
inductive NodeData.Rewritten : NodeData → NodeData → Prop
  | dataset (d : DatasetData) (status : DatasetStatus) (activeTab : Option String) :
    Rewritten (.dataset d) (.dataset { d with status, activeTab })
  | model (d : ModelData) (selectedModel : Option SelectedModel) :
    Rewritten (.model d) (.model { d with selectedModel })
  | training (d : TrainingData) (epochs : UInt32) (batchSize quantization downloadQuant : String) :
    Rewritten (.training d) (.training { d with epochs, batchSize, quantization, downloadQuant })

theorem NodeData.Rewritten.trans {a b c : NodeData} (hab : a.Rewritten b) (hbc : b.Rewritten c) :
    a.Rewritten c := by
  cases hab <;> cases hbc <;> constructor

/-- A patch that assistants write changes only what they may write. -/
theorem NodePatch.IsWritable.rewritten {catalog : Catalog} {kind : NodeKind} {patch : NodePatch}
    (h : patch.IsWritable catalog kind) {data data' : NodeData}
    (hdata : patch.applyTo? data = some data') : data.Rewritten data' := by
  cases h with
  | dataset status activeTab =>
    cases data with
    | dataset d => cases hdata; exact .dataset d _ _
    | model | training => cases hdata
  | model selectedModel =>
    cases data with
    | model d =>
      simp only [applyTo?] at hdata
      split at hdata
      · cases hdata
      · cases hdata; exact .model d _
    | dataset | training => cases hdata
  | training epochs batchSize quantization downloadQuant =>
    cases data with
    | training d => cases hdata; exact .training d _ _ _ _
    | dataset | model => cases hdata

namespace Node

/-- What a node can be after calls with these outcomes, if it is still there: it is the same in all
that assistants may not write, and the same altogether unless it was updated, which it is not if
it is locked. -/
def KeptBy (outcomes : List ToolOutcome) (before after : Node) : Prop :=
  after = before ∨ (.nodeUpdated before.id ∈ outcomes ∧ before.isLocked = false ∧
    ∃ data, before.data.Rewritten data ∧ after = { before with data })

/-- A node that was added by calls with these outcomes, and perhaps updated by later ones. -/
def IsNewBy (outcomes : List ToolOutcome) (n : Node) : Prop :=
  ∃ id position seq kind, .nodeAdded id kind ∈ outcomes ∧
    KeptBy outcomes ⟨id, position, seq, .initial kind⟩ n

variable {outcomes later : List ToolOutcome} {a b c : Node}

theorem KeptBy.refl (outcomes : List ToolOutcome) (n : Node) : n.KeptBy outcomes n := .inl rfl

theorem KeptBy.id_eq (h : a.KeptBy outcomes b) : b.id = a.id := by
  rcases h with rfl | ⟨-, -, data, -, rfl⟩ <;> rfl

theorem KeptBy.trans (hab : a.KeptBy outcomes b) (hbc : b.KeptBy later c) :
    a.KeptBy (outcomes ++ later) c := by
  rcases hab with rfl | ⟨hupdated, hlocked, data, hdata, rfl⟩
  · exact hbc.imp_right fun ⟨hupdated, h⟩ => ⟨List.mem_append_right _ hupdated, h⟩
  · refine .inr ⟨List.mem_append_left _ hupdated, hlocked, ?_⟩
    rcases hbc with rfl | ⟨-, -, data', hdata', rfl⟩
    · exact ⟨data, hdata, rfl⟩
    · exact ⟨data', hdata.trans hdata', rfl⟩

theorem IsNewBy.append (h : a.IsNewBy outcomes) (hkept : a.KeptBy later b) :
    b.IsNewBy (outcomes ++ later) := by
  obtain ⟨id, position, seq, kind, hadded, hnew⟩ := h
  exact ⟨id, position, seq, kind, List.mem_append_left _ hadded, hnew.trans hkept⟩

theorem IsNewBy.of_later (h : a.IsNewBy later) : a.IsNewBy (outcomes ++ later) := by
  obtain ⟨id, position, seq, kind, hadded, hnew⟩ := h
  exact ⟨id, position, seq, kind, List.mem_append_right _ hadded,
    (KeptBy.refl outcomes _).trans hnew⟩

end Node

/-! ## Graphs -/

namespace Graph

/-- The nodes that are not deleted by calls with these outcomes. -/
def survivors (g : Graph) (outcomes : List ToolOutcome) : List Node :=
  g.nodes.filter fun n => .nodeDeleted n.id ∉ outcomes

/-- How far calls with these outcomes reach into a graph. -/
structure Within (outcomes : List ToolOutcome) (before after : Graph) : Prop where
  /-- The nodes that are not deleted stay in order, and new ones come after them. -/
  nodes : ∃ (update : Node → Node) (added : List Node),
    after.nodes = (before.survivors outcomes).map update ++ added ∧
    (∀ n ∈ before.survivors outcomes, n.KeptBy outcomes (update n)) ∧
    added.length ≤ outcomes.length ∧ ∀ n ∈ added, n.IsNewBy outcomes
  /-- The edges that are left stay in order, and new ones come after them. -/
  edges : ∃ kept added : List Edge,
    after.edges = kept ++ added ∧ kept.Sublist before.edges ∧
    added.length ≤ outcomes.length ∧
    ∀ e ∈ added, ∃ id, .connected id e.source e.target ∈ outcomes

variable {g g' : Graph} {outcomes later : List ToolOutcome}

theorem survivors_of_none_deleted (h : ∀ id, .nodeDeleted id ∉ outcomes) :
    g.survivors outcomes = g.nodes :=
  List.filter_eq_self.mpr fun n _ => decide_eq_true (h n.id)

theorem mem_survivors {n : Node} :
    n ∈ g.survivors outcomes ↔ n ∈ g.nodes ∧ .nodeDeleted n.id ∉ outcomes := by
  rw [survivors, List.mem_filter, decide_eq_true_iff]

/-- Calls that do nothing stay within any outcomes that delete nothing. -/
theorem Within.refl (h : ∀ id, .nodeDeleted id ∉ outcomes) : Within outcomes g g where
  nodes := ⟨id, [], by simp [survivors_of_none_deleted h], fun n _ => .refl outcomes n,
    Nat.zero_le _, List.forall_mem_nil _⟩
  edges := ⟨g.edges, [], (List.append_nil _).symm, .refl _, Nat.zero_le _, List.forall_mem_nil _⟩

/-- Rewriting the data of an open node stays within an update of it. -/
theorem Within.setData (hids : g.nodeIds.Nodup) {id : String} {node : Node}
    (hnode : g.node? id = some node) (hopen : node.isLocked = false) {data : NodeData}
    (hdata : node.data.Rewritten data) : Within [.nodeUpdated id] g (g.setData id data) := by
  obtain ⟨hmem, hid⟩ := mem_of_node?_eq_some hnode
  have hkeeps : ∀ x, ToolOutcome.nodeDeleted x ∉ [ToolOutcome.nodeUpdated id] := by simp
  refine ⟨⟨fun n => if n.id = id then { n with data } else n, [], ?_, fun n hn => ?_,
    Nat.zero_le _, List.forall_mem_nil _⟩, (Within.refl hkeeps).edges⟩
  · rw [survivors_of_none_deleted hkeeps, List.append_nil]
    exact setFirst_eq_map hids id data
  · show n.KeptBy [.nodeUpdated id] (if n.id = id then { n with data } else n)
    by_cases hsame : n.id = id
    · obtain rfl := eq_of_id_eq hids (mem_survivors.mp hn).1 hmem (hsame.trans hid.symm)
      rw [if_pos hsame]
      exact .inr ⟨by simp [hsame], hopen, data, hdata, rfl⟩
    · rw [if_neg hsame]
      exact .refl _ n

theorem Within.append_node (g : Graph) (id : String) (position : Position) (seq : Nat)
    (kind : NodeKind) : Within [.nodeAdded id kind] g
      { g with nodes := g.nodes ++ [⟨id, position, seq, .initial kind⟩] } := by
  have hkeeps : ∀ x, ToolOutcome.nodeDeleted x ∉ [ToolOutcome.nodeAdded id kind] := by simp
  refine ⟨⟨fun n => n, [⟨id, position, seq, .initial kind⟩], ?_, fun n _ => .refl _ n,
    Nat.le_refl _, ?_⟩, (Within.refl hkeeps).edges⟩
  · rw [survivors_of_none_deleted hkeeps, List.map_id']
  · exact List.forall_mem_singleton.mpr ⟨_, _, _, kind, List.mem_singleton_self _, .refl _ _⟩

theorem Within.delete_node (hids : g.nodeIds.Nodup) (id : String) : Within [.nodeDeleted id] g
    ⟨g.nodes.eraseP (·.id == id), g.edges.filter (!·.touches id)⟩ := by
  have hsurvivors : g.survivors [.nodeDeleted id] = g.nodes.eraseP (·.id == id) := by
    rw [eraseP_eq_filter hids]
    refine List.filter_congr fun n _ => ?_
    by_cases hid : n.id = id <;> simp [hid]
  refine ⟨⟨fun n => n, [], ?_, fun n _ => .refl _ n, Nat.zero_le _, List.forall_mem_nil _⟩,
    _, [], (List.append_nil _).symm, List.filter_sublist, Nat.zero_le _, List.forall_mem_nil _⟩
  rw [hsurvivors, List.map_id', List.append_nil]

theorem Within.append_edge (g : Graph) (id : String) (edge : Edge) :
    Within [.connected id edge.source edge.target] g { g with edges := g.edges ++ [edge] } := by
  have hkeeps : ∀ x, ToolOutcome.nodeDeleted x ∉
      [ToolOutcome.connected id edge.source edge.target] := by simp
  refine ⟨(Within.refl hkeeps).nodes, g.edges, [edge], rfl, .refl _, Nat.le_refl _, ?_⟩
  exact List.forall_mem_singleton.mpr ⟨id, List.mem_singleton_self _⟩

/-- Deleting edges stays within any outcomes that delete no node. -/
theorem Within.filter_edges (h : ∀ id, .nodeDeleted id ∉ outcomes) (keep : Edge → Bool) :
    Within outcomes g { g with edges := g.edges.filter keep } :=
  ⟨(Within.refl h).nodes, _, [], (List.append_nil _).symm, List.filter_sublist, Nat.zero_le _,
    List.forall_mem_nil _⟩

/-- The nodes after more calls, if those after the first ones are these. -/
theorem survivors_append {update : Node → Node} {added : List Node}
    (hnodes : g'.nodes = (g.survivors outcomes).map update ++ added)
    (hkept : ∀ n ∈ g.survivors outcomes, n.KeptBy outcomes (update n)) :
    g'.survivors later = (g.survivors (outcomes ++ later)).map update ++
      added.filter fun n => .nodeDeleted n.id ∉ later := by
  have hfilter : (g.survivors outcomes).filter (fun n => .nodeDeleted (update n).id ∉ later) =
      g.survivors (outcomes ++ later) := by
    rw [survivors, survivors, List.filter_filter]
    refine List.filter_congr fun n hn => ?_
    by_cases hdeleted : ToolOutcome.nodeDeleted n.id ∈ outcomes
    · simp [hdeleted]
    · have hid := (hkept n (mem_survivors.mpr ⟨hn, hdeleted⟩)).id_eq
      simp [hdeleted, hid]
  rw [survivors, hnodes, List.filter_append, List.filter_map, ← hfilter]
  rfl

/-- **What is done one after the other** stays within all of the outcomes. -/
theorem Within.trans {g'' : Graph} (h : Within outcomes g g') (hlater : Within later g' g'') :
    Within (outcomes ++ later) g g'' where
  nodes := by
    obtain ⟨update, added, hnodes, hkept, hlength, hnew⟩ := h.nodes
    obtain ⟨update', added', hnodes', hkept', hlength', hnew'⟩ := hlater.nodes
    rw [survivors_append hnodes hkept] at hnodes' hkept'
    refine ⟨update' ∘ update,
      (added.filter fun n => .nodeDeleted n.id ∉ later).map update' ++ added',
      ?_, fun n hn => ?_, ?_, fun n hn => ?_⟩
    · rw [hnodes', List.map_append, List.map_map, List.append_assoc]
    · obtain ⟨hmem, hdeleted⟩ := mem_survivors.mp hn
      have hfirst : n ∈ g.survivors outcomes :=
        mem_survivors.mpr ⟨hmem, fun h => hdeleted (List.mem_append_left _ h)⟩
      refine (hkept n hfirst).trans (hkept' (update n) ?_)
      exact List.mem_append_left _ (List.mem_map_of_mem hn)
    · have hfilter := List.length_filter_le (fun n => .nodeDeleted n.id ∉ later) added
      rw [List.length_append, List.length_append, List.length_map]
      omega
    · rcases List.mem_append.mp hn with hn | hn
      · obtain ⟨before, hbefore, rfl⟩ := List.mem_map.mp hn
        exact (hnew before (List.mem_filter.mp hbefore).1).append
          (hkept' before (List.mem_append_right _ hbefore))
      · exact (hnew' n hn).of_later
  edges := by
    obtain ⟨kept, added, hedges, hkept, hlength, hnew⟩ := h.edges
    obtain ⟨kept', added', hedges', hkept', hlength', hnew'⟩ := hlater.edges
    rw [hedges] at hkept'
    obtain ⟨front, back, rfl, hfront, hback⟩ := List.sublist_append_iff.mp hkept'
    refine ⟨front, back ++ added', by rw [hedges', List.append_assoc], hfront.trans hkept, ?_,
      fun e he => ?_⟩
    · have hle := hback.length_le
      rw [List.length_append, List.length_append]
      omega
    · rcases List.mem_append.mp he with he | he
      · obtain ⟨id, hid⟩ := hnew e (hback.subset he)
        exact ⟨id, List.mem_append_left _ hid⟩
      · obtain ⟨id, hid⟩ := hnew' e he
        exact ⟨id, List.mem_append_right _ hid⟩

/-- A locked node that is not deleted is left exactly as it was. -/
theorem Within.mem_of_isLocked (h : Within outcomes g g') {n : Node} (hn : n ∈ g.nodes)
    (hlocked : n.isLocked = true) (hdeleted : .nodeDeleted n.id ∉ outcomes) : n ∈ g'.nodes := by
  obtain ⟨update, added, hnodes, hkept, -⟩ := h.nodes
  have hsurvivor := mem_survivors.mpr ⟨hn, hdeleted⟩
  have hsame : update n = n := by
    rcases hkept n hsurvivor with hsame | ⟨-, hopen, -⟩
    · exact hsame
    · rw [hlocked] at hopen
      cases hopen
  rw [hnodes]
  exact List.mem_append_left _ (List.mem_map.mpr ⟨n, hsurvivor, hsame⟩)

end Graph

/-! ## Calls -/

namespace Engine

variable {engine : Engine} {c c' : Conversation Store} {request : ToolRequest}

/-- What the calls with these results have done. -/
def outcomes (results : List (ToolCall × ToolResult)) : List ToolOutcome :=
  results.filterMap (·.2.toOption)

/-- What the first call has done comes before what the others have done. -/
theorem outcomes_executeAll_cons (engine : Engine) (c : Conversation Store) (call : ToolCall)
    (rest : List ToolCall) :
    outcomes (engine.executeAll c (call :: rest)).1 =
      (engine.executeCall c call).1.toOption.toList ++
        outcomes (engine.executeAll (engine.executeCall c call).2 rest).1 := by
  rw [executeAll_cons, outcomes, List.filterMap_cons, outcomes]
  cases (engine.executeCall c call).1 <;> rfl

/-- **A request stays within its outcome.** -/
theorem Executed.within {result : ToolResult} (hids : c.editor.graph.nodeIds.Nodup)
    (h : Executed engine c request result c') :
    Graph.Within result.toOption.toList c.editor.graph c'.editor.graph := by
  cases h with
  | failed => exact .refl nofun
  | nodeUpdated request id patch hresolve hdone =>
    obtain ⟨node, hnode, hopen, hpatch⟩ := exists_of_resolveUpdate hresolve
    obtain ⟨data, hdata, hgraph⟩ := Store.graph_edit_updateNode hnode hdone
    rw [hgraph]
    exact .setData hids hnode hopen (hpatch.rewritten hdata)
  | nodeAdded request kind => exact .append_node _ _ request.position _ kind
  | nodeDeleted request id hresolve hdone =>
    rw [Store.graph_edit_deleteNode hdone]
    exact .delete_node hids id
  | alreadyConnected => exact .refl (by simp [Except.toOption])
  | connected request source target hresolve hnew hdone =>
    rw [ConnectRequest.edit, Store.graph_edit_connect hdone]
    exact .append_edge _ _ ⟨_, source, target, _, _⟩
  | disconnected request reference hresolve hdone =>
    rw [Store.graph_edit_disconnect]
    exact .filter_edges (by simp [Except.toOption]) _

/-- Calls stay within their outcomes. -/
theorem within_executeCall (hids : c.editor.graph.nodeIds.Nodup) (call : ToolCall) :
    Graph.Within (engine.executeCall c call).1.toOption.toList c.editor.graph
      (engine.executeCall c call).2.editor.graph := by
  unfold executeCall
  split
  · exact (executed engine c _).within hids
  · exact .refl nofun

/-- So do any number of calls, by induction on the list. -/
theorem within_executeAll (hids : c.editor.graph.nodeIds.Nodup) (calls : List ToolCall) :
    Graph.Within (outcomes (engine.executeAll c calls).1) c.editor.graph
      (engine.executeAll c calls).2.editor.graph := by
  induction calls generalizing c with
  | nil => exact .refl nofun
  | cons call rest ih =>
    have hids' := (change_executeCall engine c call).nodup_nodeIds hids
    rw [outcomes_executeAll_cons]
    exact (within_executeCall hids call).trans (ih hids')

/-- A call that succeeds is a request that comes out with its outcome. -/
theorem exists_executed_of_ok {call : ToolCall} {outcome : ToolOutcome}
    (h : (engine.executeCall c call).1 = .ok outcome) :
    ∃ request after, ToolRequest.ofCall call = .ok request ∧
      (engine.executeCall c call).2 = after ∧ Executed engine c request (.ok outcome) after := by
  unfold executeCall at h ⊢
  split
  · rename_i request hcall
    simp only [hcall] at h
    exact ⟨request, _, hcall, rfl, h ▸ executed engine c request⟩
  · rename_i error hcall
    simp only [hcall] at h
    cases h

/-- A call adds a node only with the data of a new one. -/
theorem nodes_of_nodeAdded {call : ToolCall} {id : String} {kind : NodeKind}
    (h : (engine.executeCall c call).1 = .ok (.nodeAdded id kind)) :
    ∃ position, (engine.executeCall c call).2.editor.graph.nodes =
      c.editor.graph.nodes ++ [⟨id, position, c.editor.nextSeq, .initial kind⟩] := by
  obtain ⟨request, after, -, hafter, hexecuted⟩ := exists_executed_of_ok h
  rw [hafter]
  cases hexecuted
  exact ⟨_, rfl⟩

/-- A call updates a node only as an update that was resolved to this node. -/
theorem exists_update_of_nodeUpdated {call : ToolCall} {id : String}
    (h : (engine.executeCall c call).1 = .ok (.nodeUpdated id)) :
    ∃ request patch, ToolRequest.ofCall call = .ok (.updateNodeProperties request) ∧
      engine.resolveUpdate c.editor.graph c.created request = .ok (id, patch) := by
  obtain ⟨request, after, hcall, -, hexecuted⟩ := exists_executed_of_ok h
  cases hexecuted with
  | nodeUpdated request id patch hresolve => exact ⟨request, patch, hcall, hresolve⟩

/-- A call deletes a node only as a deletion that was resolved to this node. -/
theorem exists_deletion_of_nodeDeleted {call : ToolCall} {id : String}
    (h : (engine.executeCall c call).1 = .ok (.nodeDeleted id)) :
    ∃ request, ToolRequest.ofCall call = .ok (.deleteNode request) ∧
      resolveNode c.editor.graph c.created request.nodeId = .ok id := by
  obtain ⟨request, after, hcall, -, hexecuted⟩ := exists_executed_of_ok h
  cases hexecuted with
  | nodeDeleted request id hresolve => exact ⟨request, hcall, hresolve⟩

/-- **What calls can never touch.** In a graph without repeated ids, as that of every store is
(`StoreHistory.run_isSoundSince`), every call stays within its outcome, whatever it is made up of
and however it ends: it deletes a node only as a deletion of this node, changes one only as an
update of it, and adds one only with the data of a new one; and locked nodes that it does not
delete are left exactly as they were. So do turns of any length. -/
theorem calls_within (engine : Engine) (c : Conversation Store)
    (hids : c.editor.graph.nodeIds.Nodup) :
    (∀ call : ToolCall,
      let result := (engine.executeCall c call).1
      let after := (engine.executeCall c call).2.editor.graph
      Graph.Within result.toOption.toList c.editor.graph after ∧
      (∀ id kind, result = .ok (.nodeAdded id kind) → ∃ position,
        after.nodes = c.editor.graph.nodes ++
          [⟨id, position, c.editor.nextSeq, .initial kind⟩]) ∧
      (∀ id, result = .ok (.nodeUpdated id) → ∃ request patch,
        ToolRequest.ofCall call = .ok (.updateNodeProperties request) ∧
        engine.resolveUpdate c.editor.graph c.created request = .ok (id, patch)) ∧
      (∀ id, result = .ok (.nodeDeleted id) → ∃ request,
        ToolRequest.ofCall call = .ok (.deleteNode request) ∧
        resolveNode c.editor.graph c.created request.nodeId = .ok id)) ∧
    ∀ calls : List ToolCall,
      let outcomes := outcomes (engine.executeAll c calls).1
      let after := (engine.runTurn c calls).2.graph
      Graph.Within outcomes c.editor.graph after ∧
      ∀ n ∈ c.editor.graph.nodes, n.isLocked = true → .nodeDeleted n.id ∉ outcomes →
        n ∈ after.nodes := by
  refine ⟨fun call => ⟨within_executeCall hids call, fun _ _ => nodes_of_nodeAdded,
    fun _ => exists_update_of_nodeUpdated, fun _ => exists_deletion_of_nodeDeleted⟩,
    fun calls => ?_⟩
  have hwithin : Graph.Within (outcomes (engine.executeAll c calls).1) c.editor.graph
      (engine.runTurn c calls).2.graph := within_executeAll hids calls
  exact ⟨hwithin, fun n hn hlocked hdeleted => hwithin.mem_of_isLocked hn hlocked hdeleted⟩

/-- A turn that would unlock a model and change its title, and one that updates a dataset: the
locked model stays as it was, and the turn reaches no further than to the dataset. -/
theorem calls_within_locked :
    let locked : Node := ⟨"m", .origin, 1, .model { ModelData.initial with isLocked := true }⟩
    let c : Conversation Store := ⟨⟨⟨[locked, ⟨"d", .origin, 2, .initial .dataset⟩], []⟩, 3, 3⟩, []⟩
    let update : String → String → List (String × Json) → ToolCall := fun id kind properties =>
      ⟨"updateNodeProperties", .object [("nodeId", .string id), ("kind", .string kind),
        ("properties", .object properties)]⟩
    let calls : List ToolCall := [
      update "m" "model" [("isLocked", .bool false), ("title", .string "mine")],
      update "d" "dataset" [("status", .string "ready"), ("contentUrl", .string "s3://x")]]
    let engine := Engine.ofConfig ⟨[]⟩ .default
    outcomes (engine.executeAll c calls).1 = [.nodeUpdated "d"] ∧
      Graph.Within [.nodeUpdated "d"] c.editor.graph (engine.runTurn c calls).2.graph ∧
      locked ∈ (engine.runTurn c calls).2.graph.nodes := by
  intro locked c update calls engine
  have houtcomes : outcomes (engine.executeAll c calls).1 = [.nodeUpdated "d"] := by
    decide +kernel
  obtain ⟨hwithin, hlocked⟩ := (calls_within engine c (by decide)).2 calls
  rw [houtcomes] at hwithin hlocked
  exact ⟨houtcomes, hwithin, hlocked locked List.mem_cons_self rfl (by simp)⟩

end Engine

end FineTuning

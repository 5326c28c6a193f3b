import FineTuning.Graph.Connection
import Mathlib.Data.List.Nodup

/-!
# Integrity of graphs

`Graph.HasIntegrity` says what the check of integrity is about: the ids of the nodes are pairwise
distinct, and both ends of every edge are nodes.

* `checkIntegrity_eq_ok_iff`: the check accepts exactly the graphs that have integrity.
* `node?_eq_some_iff`: where the ids are distinct, a node is found under its id.
* `setFirst_eq_map`, `eraseP_eq_filter`: where the ids are distinct, an edit of the first node with
  an id is one of all nodes with it.
* `node?_setData`, `node?_append_node`, `node?_delete_node`: what is found after an edit.
* `isCompatible_congr`: whether an edge is well typed depends only on the kinds of its ends.
* `isCompatible_iff`, `kinds_of_isCompatible`: which kinds these are, and at which handles.
-/

namespace FineTuning

/-- No text of the list is repeated, and none was seen before. -/
theorem firstRepeated?_eq_none_iff (seen ids : List String) :
    firstRepeated? seen ids = none ↔ ids.Nodup ∧ ∀ id ∈ ids, id ∉ seen := by
  induction ids generalizing seen with
  | nil => simp [firstRepeated?]
  | cons id rest ih =>
    simp only [firstRepeated?, List.contains_iff_mem]
    by_cases h : id ∈ seen
    · rw [if_pos h]
      exact iff_of_false (by simp) fun hs => hs.2 id (List.mem_cons_self ..) h
    · rw [if_neg h, ih, List.nodup_cons]
      constructor
      · rintro ⟨hrest, hseen⟩
        refine ⟨⟨fun hmem => ?_, hrest⟩, fun x hx => ?_⟩
        · exact hseen id hmem (List.mem_cons_self ..)
        · rcases List.mem_cons.mp hx with rfl | hx
          · exact h
          · exact fun hs => hseen x hx (List.mem_cons_of_mem _ hs)
      · rintro ⟨⟨hid, hrest⟩, hseen⟩
        refine ⟨hrest, fun x hx hs => ?_⟩
        rcases List.mem_cons.mp hs with rfl | hs
        · exact hid hx
        · exact hseen x (List.mem_cons_of_mem _ hx) hs

theorem Edge.target_of_endsAt {e : Edge} {id : String} {handle : Handle}
    (h : e.endsAt id handle = true) : e.target = id := by
  simp only [endsAt, Bool.and_eq_true, beq_iff_eq] at h
  exact h.1

theorem Handle.ofName?_eq_some_iff {text : String} {handle : Handle} :
    ofName? text = some handle ↔ text = handle.name := by
  refine ⟨fun h => ?_, ?_⟩
  · exact (beq_iff_eq.mp (List.find?_some h :)).symm
  · rintro rfl
    cases handle <;> rfl

/-- A kind of edge is told by the names of its handles. -/
theorem EdgeKind.ofHandleNames?_eq_some_iff {source target : String} {kind : EdgeKind} :
    ofHandleNames? source target = some kind ↔
      source = kind.handles.1.name ∧ target = kind.handles.2.name := by
  simp only [ofHandleNames?, Option.bind_eq_bind, Option.bind_eq_some_iff,
    Handle.ofName?_eq_some_iff]
  constructor
  · rintro ⟨sourceHandle, rfl, targetHandle, rfl, h⟩
    have hhandles : kind.handles = (sourceHandle, targetHandle) :=
      beq_iff_eq.mp (List.find?_some h :)
    rw [hhandles]
    exact ⟨rfl, rfl⟩
  · rintro ⟨rfl, rfl⟩
    refine ⟨_, rfl, _, rfl, ?_⟩
    cases kind <;> rfl

namespace Graph

/-- The ids of the nodes are pairwise distinct, and both ends of every edge are among them. -/
structure HasIntegrity (g : Graph) : Prop where
  nodup_nodeIds : g.nodeIds.Nodup
  source_mem : ∀ e ∈ g.edges, e.source ∈ g.nodeIds
  target_mem : ∀ e ∈ g.edges, e.target ∈ g.nodeIds

/-! ## The check -/

theorem missingEnd?_eq_none_iff (ids : List String) (edge : Edge) :
    missingEnd? ids edge = none ↔ edge.source ∈ ids ∧ edge.target ∈ ids := by
  simp [missingEnd?]

theorem firstDangling?_eq_none_iff (ids : List String) (edges : List Edge) :
    firstDangling? ids edges = none ↔ ∀ e ∈ edges, e.source ∈ ids ∧ e.target ∈ ids := by
  simp [firstDangling?, List.findSome?_eq_none_iff, missingEnd?_eq_none_iff]

theorem integrityFault?_eq_none_iff (g : Graph) : g.integrityFault? = none ↔ g.HasIntegrity := by
  unfold integrityFault?
  cases h : firstRepeated? [] g.nodeIds with
  | some id =>
    refine iff_of_false (by simp) fun hg => ?_
    have hnone := (firstRepeated?_eq_none_iff [] g.nodeIds).mpr ⟨hg.nodup_nodeIds, by simp⟩
    rw [h] at hnone
    cases hnone
  | none =>
    have hnodup := ((firstRepeated?_eq_none_iff [] g.nodeIds).mp h).1
    rw [firstDangling?_eq_none_iff]
    constructor
    · exact fun hends => ⟨hnodup, fun e he => (hends e he).1, fun e he => (hends e he).2⟩
    · exact fun hg e he => ⟨hg.source_mem e he, hg.target_mem e he⟩

/-- **The check is exact.** It accepts a graph just when the graph has integrity. -/
theorem checkIntegrity_eq_ok_iff (g : Graph) : g.checkIntegrity = .ok () ↔ g.HasIntegrity := by
  rw [← integrityFault?_eq_none_iff]
  unfold checkIntegrity
  cases g.integrityFault? <;> simp

/-! ## Finding nodes -/

variable {g : Graph} {id : String} {node : Node}

theorem mem_of_node?_eq_some (h : g.node? id = some node) : node ∈ g.nodes ∧ node.id = id :=
  ⟨List.mem_of_find?_eq_some h, by simpa using List.find?_some h⟩

/-- What is found under an id has the kind that is found there. -/
theorem kindOf?_of_node?_eq_some (h : g.node? id = some node) :
    g.kindOf? node.id = some node.kind := by
  rw [kindOf?, (mem_of_node?_eq_some h).2, h, Option.map_some]

theorem mem_nodeIds : id ∈ g.nodeIds ↔ ∃ node ∈ g.nodes, node.id = id := List.mem_map

theorem id_mem_nodeIds (h : node ∈ g.nodes) : node.id ∈ g.nodeIds := List.mem_map_of_mem h

theorem hasNode_iff : g.hasNode id = true ↔ id ∈ g.nodeIds := by
  simp [hasNode, node?, mem_nodeIds]

theorem exists_node?_of_mem (h : id ∈ g.nodeIds) : ∃ node, g.node? id = some node :=
  Option.isSome_iff_exists.mp (hasNode_iff.mpr h)

/-- Nodes of a list with distinct ids are told apart by their ids. -/
theorem eq_of_id_eq {nodes : List Node} (hg : (nodes.map (·.id)).Nodup) {a b : Node}
    (ha : a ∈ nodes) (hb : b ∈ nodes) (h : a.id = b.id) : a = b :=
  List.inj_on_of_nodup_map hg ha hb h

/-- Where the ids are distinct, no later node has the id of the first. -/
theorem id_ne_of_nodup_cons {first : Node} {rest : List Node}
    (h : ((first :: rest).map (·.id)).Nodup) : ∀ node ∈ rest, node.id ≠ first.id :=
  fun _ hnode hid => (List.nodup_cons.mp h).1 (List.mem_map.mpr ⟨_, hnode, hid⟩)

/-- Where the ids are distinct, a node is what is found under its id. -/
theorem node?_eq_some_iff (hg : g.nodeIds.Nodup) :
    g.node? id = some node ↔ node ∈ g.nodes ∧ node.id = id := by
  refine ⟨mem_of_node?_eq_some, fun ⟨hmem, hid⟩ => ?_⟩
  obtain ⟨found, hfound⟩ := exists_node?_of_mem (hid ▸ id_mem_nodeIds hmem)
  obtain ⟨hfmem, hfid⟩ := mem_of_node?_eq_some hfound
  rw [hfound, eq_of_id_eq hg hfmem hmem (hfid.trans hid.symm)]

/-- Where the ids are distinct, the kind under an id is that of the node with the id. -/
theorem kindOf?_eq_some_iff (hg : g.nodeIds.Nodup) {kind : NodeKind} :
    g.kindOf? id = some kind ↔ ∃ node ∈ g.nodes, node.id = id ∧ node.kind = kind := by
  simp only [kindOf?, Option.map_eq_some_iff, node?_eq_some_iff hg, and_assoc]

/-! ## Finding nodes after an edit -/

/-- What does not depend on the data of nodes stays the same for all nodes. -/
theorem map_setFirst {α : Type} (id : String) (data : NodeData) (nodes : List Node) {f : Node → α}
    (hf : ∀ node : Node, f { node with data } = f node) :
    (setFirst id data nodes).map f = nodes.map f := by
  fun_induction setFirst id data nodes with
  | case1 => rfl
  | case2 node rest => rw [List.map_cons, List.map_cons, hf]
  | case3 node rest _ ih => rw [List.map_cons, List.map_cons, ih]

/-- A node is one from before, or one with the id that got the data. -/
theorem mem_of_mem_setFirst {data : NodeData} {nodes : List Node}
    (h : node ∈ setFirst id data nodes) :
    node ∈ nodes ∨ ∃ before ∈ nodes, before.id = id ∧ node = { before with data } := by
  fun_induction setFirst id data nodes with
  | case1 => cases h
  | case2 first rest hid =>
    rcases List.mem_cons.mp h with rfl | h
    · exact .inr ⟨first, .head _, beq_iff_eq.mp hid, rfl⟩
    · exact .inl (.tail _ h)
  | case3 first rest _ ih =>
    rcases List.mem_cons.mp h with rfl | h
    · exact .inl (.head _)
    · obtain h | ⟨before, hbefore, hnode⟩ := ih h
      · exact .inl (.tail _ h)
      · exact .inr ⟨before, .tail _ hbefore, hnode⟩

/-- What leaves out the nodes with the id does not see the data. -/
theorem filter_setFirst {data : NodeData} {nodes : List Node} {keep : Node → Bool}
    (hkeep : ∀ node : Node, keep { node with data } = keep node)
    (hid : ∀ node : Node, node.id = id → keep node = false) :
    (setFirst id data nodes).filter keep = nodes.filter keep := by
  fun_induction setFirst id data nodes with
  | case1 => rfl
  | case2 first rest hfirst =>
    have hleft := hid first (beq_iff_eq.mp hfirst)
    simp only [List.filter_cons, hkeep, hleft, Bool.false_eq_true, ↓reduceIte]
  | case3 first rest _ ih => rw [List.filter_cons, List.filter_cons, ih]

theorem find?_setFirst (id : String) (data : NodeData) (nodes : List Node) (x : String) :
    (setFirst id data nodes).find? (·.id == x) = (nodes.find? (·.id == x)).map fun node =>
      if node.id = id then { node with data } else node := by
  fun_induction setFirst id data nodes with
  | case1 => rfl
  | case2 first rest hid =>
    cases hx : first.id == x with
    | true => simp only [List.find?_cons, hx, Option.map_some, if_pos (beq_iff_eq.mp hid)]
    | false =>
      simp only [List.find?_cons, hx]
      -- What is found further on has another id.
      refine Option.map_id_apply.symm.trans (Option.map_congr fun node hnode => (if_neg ?_).symm)
      rintro rfl
      have hnode : node.id = x := beq_iff_eq.mp (List.find?_some hnode :)
      exact beq_eq_false_iff_ne.mp hx ((beq_iff_eq.mp hid).trans hnode)
  | case3 first rest hid ih =>
    cases hx : first.id == x with
    | true => simp only [List.find?_cons, hx, Option.map_some, if_neg (mt beq_iff_eq.mpr hid)]
    | false => simp only [List.find?_cons, hx, ih]

/-- Where the ids are distinct, the first node with the id is the only one. -/
theorem setFirst_eq_map {nodes : List Node} (h : (nodes.map (·.id)).Nodup) (id : String)
    (data : NodeData) :
    setFirst id data nodes =
      nodes.map fun node => if node.id = id then { node with data } else node := by
  fun_induction setFirst id data nodes with
  | case1 => rfl
  | case2 first rest hid =>
    obtain rfl := beq_iff_eq.mp hid
    have hothers : ∀ node ∈ rest,
        (if node.id = first.id then { node with data } else node) = node :=
      fun node hnode => if_neg (id_ne_of_nodup_cons h node hnode)
    rw [List.map_cons, if_pos rfl, List.map_congr_left hothers, List.map_id']
  | case3 first rest hid ih =>
    rw [List.map_cons, if_neg (mt beq_iff_eq.mpr hid), ih (List.nodup_cons.mp h).2]

theorem map_nodes_setData {α : Type} (g : Graph) (id : String) (data : NodeData) {f : Node → α}
    (hf : ∀ node : Node, f { node with data } = f node) :
    (g.setData id data).nodes.map f = g.nodes.map f :=
  map_setFirst id data g.nodes hf

@[simp] theorem nodeIds_setData (g : Graph) (id : String) (data : NodeData) :
    (g.setData id data).nodeIds = g.nodeIds :=
  g.map_nodes_setData id data fun _ => rfl

theorem node?_setData (g : Graph) (id : String) (data : NodeData) (x : String) :
    (g.setData id data).node? x =
      (g.node? x).map fun node => if node.id = id then { node with data } else node :=
  find?_setFirst id data g.nodes x

/-- Data of the same kind leaves all kinds as they are. -/
theorem kindOf?_setData (hnode : g.node? id = some node) {data : NodeData}
    (hkind : data.kind = node.kind) (x : String) : (g.setData id data).kindOf? x = g.kindOf? x := by
  simp only [kindOf?, node?_setData, Option.map_map]
  cases hx : g.node? x with
  | none => rfl
  | some other =>
    simp only [Option.map_some, Function.comp_apply, Option.some.injEq]
    split
    · rename_i hid
      -- A node that is found under `x` and has the id `id` is the one that is found under `id`.
      rw [← (mem_of_node?_eq_some hx).2, hid, hnode] at hx
      cases hx
      exact hkind
    · rfl

/-- A new node leaves what is found under the ids that there were. -/
theorem node?_append_node {x : String} (hx : x ∈ g.nodeIds) (node : Node) :
    node? { g with nodes := g.nodes ++ [node] } x = g.node? x := by
  obtain ⟨found, hfound⟩ := exists_node?_of_mem hx
  simp only [node?] at hfound
  simp only [node?, List.find?_append, hfound, Option.some_or]

theorem kindOf?_append_node {x : String} (hx : x ∈ g.nodeIds) {node : Node} :
    kindOf? { g with nodes := g.nodes ++ [node] } x = g.kindOf? x := by
  simp only [kindOf?, node?_append_node hx]

/-- An item that does not satisfy the condition can be erased before filtering. -/
theorem filter_eraseP {α : Type} {p q : α → Bool} (h : ∀ a, p a = true → q a = false)
    (items : List α) : (items.eraseP p).filter q = items.filter q := by
  induction items with
  | nil => rfl
  | cons a rest ih =>
    by_cases ha : p a = true
    · rw [List.eraseP_cons_of_pos ha, List.filter_cons_of_neg (by simp [h a ha])]
    · rw [List.eraseP_cons_of_neg ha, List.filter_cons, List.filter_cons, ih]

/-- Deleting a node leaves what is found under the other ids. -/
theorem node?_delete_node {x : String} (hx : x ≠ id) (edges : List Edge) :
    node? ⟨g.nodes.eraseP (·.id == id), edges⟩ x = g.node? x := by
  rw [node?, node?, ← List.head?_filter, ← List.head?_filter, filter_eraseP fun node hnode => ?_]
  rw [beq_iff_eq.mp hnode]
  exact beq_eq_false_iff_ne.mpr hx.symm

theorem kindOf?_delete_node {x : String} (hx : x ≠ id) {edges : List Edge} :
    kindOf? ⟨g.nodes.eraseP (·.id == id), edges⟩ x = g.kindOf? x := by
  simp only [kindOf?, node?_delete_node hx]

/-- Where the ids are distinct, no other node has the id of the one that is deleted. -/
theorem eraseP_eq_filter {nodes : List Node} (h : (nodes.map (·.id)).Nodup) (id : String) :
    nodes.eraseP (·.id == id) = nodes.filter (·.id != id) := by
  induction nodes with
  | nil => rfl
  | cons first rest ih =>
    by_cases hid : first.id = id
    · subst hid
      have hothers : rest.filter (·.id != first.id) = rest :=
        List.filter_eq_self.mpr fun node hnode => bne_iff_ne.mpr (id_ne_of_nodup_cons h node hnode)
      simp [hothers]
    · simp [hid, ih (List.nodup_cons.mp h).2]

/-! ## Compatible ends -/

/-- Whether an edge is well typed depends only on the kinds of its ends. -/
theorem isCompatible_congr {g' : Graph} {source target : String}
    (hs : g'.kindOf? source = g.kindOf? source) (ht : g'.kindOf? target = g.kindOf? target)
    (sourceHandle targetHandle : String) :
    g'.isCompatible source target sourceHandle targetHandle =
      g.isCompatible source target sourceHandle targetHandle := by
  simp only [isCompatible, hs, ht]

/-- An edge is well typed when its handles are those of a kind of edge, and its ends two different
nodes of the kinds that go with it. -/
theorem isCompatible_iff {source target sourceHandle targetHandle : String} :
    g.isCompatible source target sourceHandle targetHandle = true ↔
      source ≠ target ∧ ∃ kind : EdgeKind,
        sourceHandle = kind.handles.1.name ∧ targetHandle = kind.handles.2.name ∧
        g.kindOf? source = some kind.endpointKinds.1 ∧
        g.kindOf? target = some kind.endpointKinds.2 := by
  simp only [isCompatible, Bool.and_eq_true, bne_iff_ne]
  refine and_congr_right fun _ => ?_
  constructor
  · intro h
    split at h
    · rename_i kind sourceKind targetKind hhandles hs ht
      obtain ⟨hsource, htarget⟩ := EdgeKind.ofHandleNames?_eq_some_iff.mp hhandles
      have hkinds : kind.endpointKinds = (sourceKind, targetKind) := by simpa using h
      exact ⟨kind, hsource, htarget, by rw [hs, hkinds], by rw [ht, hkinds]⟩
    · cases h
  · rintro ⟨kind, hsource, htarget, hs, ht⟩
    rw [EdgeKind.ofHandleNames?_eq_some_iff.mpr ⟨hsource, htarget⟩, hs, ht]
    exact beq_self_eq_true _

/-- A well-typed edge leads from a dataset to a model or from a model to a training node. -/
theorem kinds_of_isCompatible {source target sourceHandle targetHandle : String}
    (h : g.isCompatible source target sourceHandle targetHandle = true) :
    (g.kindOf? source = some .dataset ∧ g.kindOf? target = some .model) ∨
      (g.kindOf? source = some .model ∧ g.kindOf? target = some .training) := by
  obtain ⟨-, kind, -, -, hs, ht⟩ := isCompatible_iff.mp h
  cases kind with
  | datasetToModel => exact .inl ⟨hs, ht⟩
  | modelToTraining => exact .inr ⟨hs, ht⟩

/-- Between two nodes, edges are well typed at one pair of handles at most. -/
theorem handles_unique_of_isCompatible {source target sourceHandle targetHandle sourceHandle'
    targetHandle' : String} (h : g.isCompatible source target sourceHandle targetHandle = true)
    (h' : g.isCompatible source target sourceHandle' targetHandle' = true) :
    sourceHandle = sourceHandle' ∧ targetHandle = targetHandle' := by
  obtain ⟨-, kind, rfl, rfl, hs, -⟩ := isCompatible_iff.mp h
  obtain ⟨-, kind', rfl, rfl, hs', -⟩ := isCompatible_iff.mp h'
  rw [hs] at hs'
  cases kind with
  | datasetToModel =>
    cases kind' with
    | datasetToModel => exact ⟨rfl, rfl⟩
    | modelToTraining => cases hs'
  | modelToTraining =>
    cases kind' with
    | datasetToModel => cases hs'
    | modelToTraining => exact ⟨rfl, rfl⟩

theorem mem_nodeIds_of_kindOf? {kind : NodeKind} (h : g.kindOf? id = some kind) :
    id ∈ g.nodeIds := by
  obtain ⟨node, hnode, -⟩ := Option.map_eq_some_iff.mp h
  exact hasNode_iff.mp (Option.isSome_of_eq_some hnode)

/-- The ends of a well-typed edge are nodes. -/
theorem ends_mem_of_isCompatible {source target sourceHandle targetHandle : String}
    (h : g.isCompatible source target sourceHandle targetHandle = true) :
    source ∈ g.nodeIds ∧ target ∈ g.nodeIds := by
  obtain ⟨hs, ht⟩ | ⟨hs, ht⟩ := kinds_of_isCompatible h
  · exact ⟨mem_nodeIds_of_kindOf? hs, mem_nodeIds_of_kindOf? ht⟩
  · exact ⟨mem_nodeIds_of_kindOf? hs, mem_nodeIds_of_kindOf? ht⟩

end Graph

end FineTuning

import FineTuning.Proofs.CreationOrder
import FineTuning.Proofs.StoreTopology
import Mathlib.Data.List.Forall2

/-!
# Handles that a canvas leaves out

A canvas may say between which nodes an edge leads and leave out the handles. They are filled in
from the kind of the source alone, whatever the target is, and checked later by way of the handles.
Still such an edge is well typed just when its ends are of kinds that can be connected. So
validation of an export without handles comes down to counting.

* `Graph.AreConnectable`: the kinds of ends between which edges make sense.
* `CanvasEdge.isCompatible_toEdge_iff`: an edge without handles is well typed by its ends.
* `CanvasExport.graph_of_omitted_handles`: all this about the graph of an export.
-/

namespace FineTuning

/-- The edge is without both handles. -/
def CanvasEdge.OmitsHandles (edge : CanvasEdge) : Prop :=
  edge.sourceHandle = none ∧ edge.targetHandle = none

/-- The one end is a dataset and the other one a model, or the one a model and the other one a
training node. -/
def Graph.AreConnectable (g : Graph) (source target : String) : Prop :=
  g.HasKind source .dataset ∧ g.HasKind target .model ∨
    g.HasKind source .model ∧ g.HasKind target .training

/-- The nodes of the graph are those of the export in their order, numbered from one. -/
structure Graph.HasNodesOf (g : Graph) (canvas : CanvasExport) : Prop where
  ids : g.nodes.map (·.id) = canvas.nodes.map (·.id)
  positions : g.nodes.map (·.position) = canvas.nodes.map (·.position)
  createdSeqs : g.nodes.map (·.createdSeq) = List.range' 1 canvas.nodes.length

/-- Edges that leave a node of a kind begin at nodes of this kind. -/
theorem EdgeKind.leaving?_eq_some_iff {kind : EdgeKind} {source : NodeKind} :
    leaving? source = some kind ↔ kind.endpointKinds.1 = source := by
  cases kind <;> cases source <;> decide

/-- The nodes of the graph are those of the export. -/
theorem CanvasExport.hasNodesOf_of_toGraph {canvas : CanvasExport} {g : Graph}
    (h : canvas.toGraph = .ok g) : g.HasNodesOf canvas := by
  obtain ⟨hnodes, -, -⟩ := toGraph_eq_ok_iff.mp h
  have hkeeps : ∀ (node : CanvasNode) createdSeq result, node.toNode createdSeq = .ok result →
      result.id = node.id ∧ result.position = node.position := by
    intro node createdSeq result hnode
    obtain ⟨-, data, -, -, rfl⟩ := CanvasNode.toNode_eq_ok_iff.mp hnode
    exact ⟨rfl, rfl⟩
  exact {
    ids := CanvasNode.map_of_toNodes (fun _ _ _ hnode => (hkeeps _ _ _ hnode).1) hnodes
    positions := CanvasNode.map_of_toNodes (fun _ _ _ hnode => (hkeeps _ _ _ hnode).2) hnodes
    createdSeqs := CanvasNode.createdSeq_of_toNodes hnodes }

/-! ## Edges -/

namespace Graph

variable {g : Graph} {source target : String}

theorem areConnectable_iff (hg : g.nodeIds.Nodup) :
    g.AreConnectable source target ↔ ∃ kind : EdgeKind,
      g.kindOf? source = some kind.endpointKinds.1 ∧
        g.kindOf? target = some kind.endpointKinds.2 := by
  simp only [AreConnectable, HasKind, ← kindOf?_eq_some_iff hg]
  constructor
  · rintro (h | h)
    · exact ⟨.datasetToModel, h⟩
    · exact ⟨.modelToTraining, h⟩
  · rintro ⟨kind, h⟩
    cases kind with
    | datasetToModel => exact .inl h
    | modelToTraining => exact .inr h

/-- No node can be connected with itself. -/
theorem AreConnectable.ne (hg : g.nodeIds.Nodup) (h : g.AreConnectable source target) :
    source ≠ target := by
  rintro rfl
  obtain ⟨kind, hsource, htarget⟩ := (areConnectable_iff hg).mp h
  rw [hsource] at htarget
  cases kind <;> cases htarget

end Graph

namespace CanvasEdge

variable {nodes : Graph} {edge : CanvasEdge}

/-- Handles that are left out are those of the edges that leave the source. -/
theorem handles_toEdge (h : edge.OmitsHandles) {kind : EdgeKind}
    (hsource : nodes.kindOf? edge.source = some kind.endpointKinds.1) :
    (edge.toEdge nodes).sourceHandle = kind.handles.1.name ∧
      (edge.toEdge nodes).targetHandle = kind.handles.2.name := by
  have hleaving := EdgeKind.leaving?_eq_some_iff.mpr (rfl : kind.endpointKinds.1 = _)
  simp [toEdge, h.1, h.2, hsource, hleaving]

/-- **An edge without handles is well typed by its ends.** If the target is of another kind than the
filled-in handles are made for, then the edge does not have its ends at them, and if no edges leave
the source, then it has no handles at all. -/
theorem isCompatible_toEdge_iff {g : Graph} (hg : g.nodeIds.Nodup)
    (hkinds : ∀ id, nodes.kindOf? id = g.kindOf? id) (h : edge.OmitsHandles) :
    g.isCompatible edge.source edge.target (edge.toEdge nodes).sourceHandle
        (edge.toEdge nodes).targetHandle = true ↔
      g.AreConnectable edge.source edge.target := by
  rw [Graph.isCompatible_iff]
  constructor
  · rintro ⟨-, kind, -, -, hsource, htarget⟩
    exact (Graph.areConnectable_iff hg).mpr ⟨kind, hsource, htarget⟩
  · intro hends
    obtain ⟨kind, hsource, htarget⟩ := (Graph.areConnectable_iff hg).mp hends
    obtain ⟨hsourceHandle, htargetHandle⟩ := handles_toEdge h ((hkinds _).trans hsource)
    exact ⟨hends.ne hg, kind, hsourceHandle, htargetHandle, hsource, htarget⟩

end CanvasEdge

/-! ## Graphs of exports -/

namespace CanvasExport

variable {canvas : CanvasExport} {g : Graph}

/-- The edge of the graph has the ends of the edge that is given, and if this is without handles,
then it is well typed just when its ends can be connected. -/
structure EdgeOf (g : Graph) (given : CanvasEdge) (e : Edge) : Prop where
  source : e.source = given.source
  target : e.target = given.target
  typed : given.OmitsHandles →
    (g.isCompatible e.source e.target e.sourceHandle e.targetHandle = true ↔
      g.AreConnectable e.source e.target)

/-- The edges of the graph are those of the export, one by one. -/
theorem edgesOf_of_toGraph (h : canvas.toGraph = .ok g) :
    List.Forall₂ (EdgeOf g) canvas.edges g.edges := by
  obtain ⟨-, hedges, hintegrity⟩ := toGraph_eq_ok_iff.mp h
  rw [hedges, List.forall₂_map_right_iff, List.forall₂_same]
  exact fun given _ => ⟨rfl, rfl, fun homits =>
    CanvasEdge.isCompatible_toEdge_iff hintegrity.nodup_nodeIds (fun _ => rfl) homits⟩

/-- An export without handles gives a well-typed graph if its edges are between ends that can be
connected. -/
theorem isWellTyped_of_toGraph (h : canvas.toGraph = .ok g)
    (hedges : ∀ given ∈ canvas.edges,
      given.OmitsHandles ∧ g.AreConnectable given.source given.target) : g.IsWellTyped := by
  intro e he
  obtain ⟨-, hgraph, hintegrity⟩ := toGraph_eq_ok_iff.mp h
  rw [hgraph] at he
  obtain ⟨given, hgiven, rfl⟩ := List.mem_map.mp he
  obtain ⟨homits, hends⟩ := hedges given hgiven
  have htyped := CanvasEdge.isCompatible_toEdge_iff hintegrity.nodup_nodeIds (fun _ => rfl) homits
  exact htyped.mpr hends

/-- **Typing by kinds alone.** The graph of an export has its nodes in their order, with their ids
and positions and with the numbers from one on, and its edges in their order, with their ends. An
edge that is given without both handles is well typed just when it leads from a dataset to a model
or from a model to a training node. If all edges are given so and lead between such nodes, then the
graph is valid just when there is one training node, one edge ends at it, and some edge ends at the
node where this one begins. -/
theorem graph_of_omitted_handles (h : canvas.toGraph = .ok g) :
    g.HasNodesOf canvas ∧ List.Forall₂ (EdgeOf g) canvas.edges g.edges ∧
      ((∀ given ∈ canvas.edges,
          given.OmitsHandles ∧ g.AreConnectable given.source given.target) →
        (g.topology.isValid = true ↔ ∃ t e, g.IsCounted t e)) := by
  refine ⟨hasNodesOf_of_toGraph h, edgesOf_of_toGraph h, fun hedges => ?_⟩
  have hids : g.nodeIds.Nodup := (toGraph_eq_ok_iff.mp h).2.2.nodup_nodeIds
  exact (isWellTyped_of_toGraph h hedges).isValid_topology_iff hids

/-- Edges that are repeated, lead back to where they begin, skip the model or leave a training node;
and an export whose edges make a training path. -/
theorem graph_of_omitted_handles_mixed :
    let nodes : List CanvasNode := [⟨"d", "dataset", .origin, .null⟩,
      ⟨"m", "modelNode", .origin, .null⟩, ⟨"t", "training-node", .origin, .null⟩]
    let edge (source target : String) : CanvasEdge := ⟨none, source, target, none, none⟩
    let mixed : CanvasExport :=
      ⟨nodes, [edge "d" "m", edge "d" "m", edge "m" "m", edge "d" "t", edge "t" "m"]⟩
    let path : CanvasExport := ⟨nodes, [edge "d" "m", edge "m" "t"]⟩
    (∃ g, mixed.toGraph = .ok g ∧ List.Forall₂ (EdgeOf g) mixed.edges g.edges ∧
      g.edges.map (fun e => g.isCompatible e.source e.target e.sourceHandle e.targetHandle) =
        [true, true, false, false, false]) ∧
    ∃ g, path.toGraph = .ok g ∧ g.HasNodesOf path ∧ g.topology.isValid = true := by
  intro nodes edge mixed path
  obtain ⟨g, hg⟩ : ∃ g, mixed.toGraph = .ok g := ⟨_, rfl⟩
  obtain ⟨g', hg'⟩ : ∃ g, path.toGraph = .ok g := ⟨_, rfl⟩
  obtain ⟨-, hedges, -⟩ := graph_of_omitted_handles hg
  obtain ⟨hnodes, -, hvalid⟩ := graph_of_omitted_handles hg'
  refine ⟨⟨g, hg, hedges, ?_⟩, g', hg', hnodes, ?_⟩
  · cases hg
    decide +kernel
  · have hkinds : ∀ given ∈ path.edges,
        given.OmitsHandles ∧ g'.AreConnectable given.source given.target := by
      cases hg'
      simp only [CanvasEdge.OmitsHandles, Graph.AreConnectable, Graph.HasKind]
      decide
    refine (hvalid hkinds).mpr ⟨⟨"t", .origin, 3, .initial .training⟩,
      ⟨"edge-m-t", "m", "t", "model-output", "training-input"⟩, ?_⟩
    cases hg'
    exact ⟨⟨by decide, rfl, by decide⟩, by decide, rfl, by decide, _, List.mem_cons_self, rfl⟩

end CanvasExport

end FineTuning

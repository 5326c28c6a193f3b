import FineTuning.Proofs.Graph.CanvasExports
import FineTuning.Proofs.StoreRuns

/-!
# Ids of edges

A store gives every new edge an id that no other edge has, but integrity of a graph says nothing
about the ids of its edges. So a graph that is loaded with a repeated id keeps it, and deleting by
this id deletes several edges. A canvas export adds such ids by itself, because the id that it
chooses for an edge without one depends on the two ends alone.

* `CanvasExport.hasDistinctEdgeIds_iff`: when the graph of an export has distinct ids of edges.
* `Store.hasDistinctEdgeIds_iff_disconnect`: ids are distinct just when no id deletes two edges.
* `StoreHistory.edges_keyed_iff`: edges are told apart by their ids in all runs from a loaded graph
  just when they are in this graph.
-/

namespace FineTuning

/-! ## Canvas exports -/

namespace CanvasExport

/-- The ids that the export gives to its edges. -/
def givenEdgeIds (canvas : CanvasExport) : List String :=
  canvas.edges.filterMap (·.id)

/-- The ids that are chosen for the edges without one. -/
def chosenEdgeIds (canvas : CanvasExport) : List String :=
  (canvas.edges.filter (·.id.isNone)).map fun edge => Edge.idBetween edge.source edge.target 1

variable {canvas : CanvasExport} {g : Graph}

/-- The edges of the graph have the ids that are given and those that are chosen. -/
theorem edgeIds_perm (nodes : Graph) (edges : List CanvasEdge) :
    ((edges.map (CanvasEdge.toEdge nodes)).map (·.id)).Perm
      (edges.filterMap (·.id) ++ (edges.filter (·.id.isNone)).map fun edge =>
        Edge.idBetween edge.source edge.target 1) := by
  induction edges with
  | nil => exact .nil
  | cons edge rest ih =>
    obtain ⟨id, source, target, sourceHandle, targetHandle⟩ := edge
    cases id with
    | some id => exact ih.cons id
    | none => exact (ih.cons _).trans List.perm_middle.symm

/-- If the given ids are distinct, then the graph has distinct ids of edges just when the chosen
ones are distinct and none of them is given. -/
theorem hasDistinctEdgeIds_iff (h : canvas.toGraph = .ok g) (hgiven : canvas.givenEdgeIds.Nodup) :
    g.HasDistinctEdgeIds ↔
      canvas.chosenEdgeIds.Nodup ∧ ∀ id ∈ canvas.givenEdgeIds, id ∉ canvas.chosenEdgeIds := by
  obtain ⟨-, hedges, -⟩ := toGraph_eq_ok_iff.mp h
  rw [Graph.HasDistinctEdgeIds, hedges, (edgeIds_perm _ canvas.edges).nodup_iff,
    List.nodup_append']
  exact and_iff_right hgiven

end CanvasExport

/-! ## Stores -/

namespace Store

variable {s : Store}

/-- An edge has the id, or is left when the edges with the id are deleted. -/
theorem count_edgeIds (s : Store) (id : String) :
    s.graph.edges.length =
      (s.graph.edges.map (·.id)).count id + (s.disconnect (.byId id)).2.graph.edges.length := by
  have hleft : (s.disconnect (.byId id)).2.graph.edges =
      s.graph.edges.filter (!(EdgeReference.byId id).names ·) :=
    congrArg Graph.edges (s.graph_edit_disconnect (.byId id))
  rw [hleft, ← List.countP_eq_length_filter, List.count, List.countP_map,
    List.length_eq_countP_add_countP fun e : Edge => e.id == id]
  congr 1
  exact List.countP_congr fun e _ => by simp [EdgeReference.names]

/-- **Ids of edges are distinct just when no id deletes two edges.** -/
theorem hasDistinctEdgeIds_iff_disconnect :
    s.graph.HasDistinctEdgeIds ↔
      ∀ id, s.graph.edges.length ≤ (s.disconnect (.byId id)).2.graph.edges.length + 1 := by
  rw [Graph.HasDistinctEdgeIds, List.nodup_iff_count_le_one]
  refine forall_congr' fun id => ?_
  rw [s.count_edgeIds id]
  omega

end Store

/-! ## Runs -/

namespace StoreHistory

/-- **Edges are told apart by their ids** in every run from a loaded graph, be it of edits, calls or
turns, just when they are so in this graph: then all ids stay distinct, and deleting by an id
deletes one edge at most. If the graph is that of a canvas export with distinct given ids, this is
so just when the ids that are chosen for the other edges are distinct and none of them is given. -/
theorem edges_keyed_iff {g : Graph} {start : Store} (hstart : Store.ofGraph g = .ok start) :
    ((∀ actions, ∃ h, (begin start).run actions = .ok h ∧ h.current.graph.HasDistinctEdgeIds ∧
        ∀ id, h.current.graph.edges.length ≤
          (h.current.disconnect (.byId id)).2.graph.edges.length + 1) ↔
      g.HasDistinctEdgeIds) ∧
    ∀ canvas : CanvasExport, canvas.toGraph = .ok g → canvas.givenEdgeIds.Nodup →
      (g.HasDistinctEdgeIds ↔
        canvas.chosenEdgeIds.Nodup ∧ ∀ id ∈ canvas.givenEdgeIds, id ∉ canvas.chosenEdgeIds) := by
  have hgraph : start.graph = g := Store.graph_of_ofGraph hstart
  refine ⟨⟨fun hruns => ?_, fun hdistinct actions => ?_⟩,
    fun canvas => CanvasExport.hasDistinctEdgeIds_iff⟩
  · -- The run without any action ends where it has begun.
    obtain ⟨h, hrun, hdistinct, -⟩ := hruns []
    cases hrun
    exact hgraph ▸ hdistinct
  · obtain ⟨h, hrun, hsince⟩ := run_isSoundSince (Store.IsStart.isSound (.inr ⟨g, hstart⟩)) actions
    have hend : h.current.graph.HasDistinctEdgeIds := hsince.distinctEdgeIds (hgraph ▸ hdistinct)
    exact ⟨h, hrun, hend, Store.hasDistinctEdgeIds_iff_disconnect.mp hend⟩

/-- An export in which ids have dashes: the id that is chosen for the first edge is not that which is
given to the second one. -/
theorem edges_keyed_iff_dashes :
    let canvas : CanvasExport := ⟨[⟨"a", "dataset", .origin, .null⟩, ⟨"b-c", "model", .origin, .null⟩,
        ⟨"a-b", "dataset", .origin, .null⟩, ⟨"c", "modelNode", .origin, .null⟩],
      [⟨none, "a", "b-c", none, none⟩, ⟨some "edge-a-b-c-2", "a-b", "c", none, none⟩]⟩
    ∃ g start, canvas.toGraph = .ok g ∧ Store.ofGraph g = .ok start ∧ g.HasDistinctEdgeIds ∧
      ∃ h, (begin start).run [.edit (.disconnect (.byId "edge-a-b-c")), .restore 0, .reload] =
        .ok h ∧ h.current.graph.HasDistinctEdgeIds := by
  intro canvas
  obtain ⟨g, hg⟩ : ∃ g, canvas.toGraph = .ok g := ⟨_, rfl⟩
  obtain ⟨start, hstart⟩ : ∃ start, Store.ofGraph g = .ok start := by
    cases hg
    exact ⟨_, rfl⟩
  obtain ⟨hruns, hcanvas⟩ := edges_keyed_iff hstart
  have hdistinct : g.HasDistinctEdgeIds :=
    (hcanvas canvas hg (by decide)).mpr ⟨by decide, by decide⟩
  obtain ⟨h, hrun, hend, -⟩ := hruns.mpr hdistinct
    [.edit (.disconnect (.byId "edge-a-b-c")), .restore 0, .reload]
  exact ⟨g, start, hg, hstart, hdistinct, h, hrun, hend⟩

/-- Two edges with the same id: in a graph that is accepted from its text, and in the graph of an
export that gives no ids. Each time both edges are deleted by it. -/
theorem edges_deleted_by_one_id :
    let loaded : Graph := ⟨[⟨"d", .origin, 1, .initial .dataset⟩, ⟨"m", .origin, 2, .initial .model⟩,
        ⟨"n", .origin, 3, .initial .model⟩],
      [⟨"e", "d", "m", "dataset-output", "model-input"⟩,
        ⟨"e", "d", "n", "dataset-output", "model-input"⟩]⟩
    let canvas : CanvasExport := ⟨[⟨"a", "dataset", .origin, .null⟩, ⟨"b-c", "model", .origin, .null⟩,
        ⟨"a-b", "dataset", .origin, .null⟩, ⟨"c", "model", .origin, .null⟩],
      [⟨none, "a", "b-c", none, none⟩, ⟨none, "a-b", "c", none, none⟩]⟩
    (Graph.ofText loaded.toText = .ok loaded ∧ ∃ start, Store.ofGraph loaded = .ok start ∧
      start.graph.edges.length = 2 ∧ (start.disconnect (.byId "e")).2.graph.edges = []) ∧
    canvas.givenEdgeIds.Nodup ∧ ∃ g start, canvas.toGraph = .ok g ∧ Store.ofGraph g = .ok start ∧
      start.graph.edges.length = 2 ∧ (start.disconnect (.byId "edge-a-b-c")).2.graph.edges = [] := by
  intro loaded canvas
  have hread : Graph.ofText loaded.toText = .ok loaded := by
    refine Graph.ofText_toText ⟨by decide, by decide, by decide⟩ (by decide) ?_ ?_
    · decide +kernel
    · decide +kernel
  refine ⟨⟨hread, _, rfl, rfl, by decide⟩, by decide, _, _, rfl, rfl, rfl, by decide +kernel⟩

end StoreHistory

end FineTuning

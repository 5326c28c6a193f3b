import FineTuning.Graph.Canvas
import FineTuning.Proofs.Graph.RoundTrip

/-!
# Graphs as canvas exports

A graph can be written as the canvas saves it, with the kinds of its nodes as their types and their
data as it stands in the text of a graph. Such an export gives the graph back, except that its nodes
are numbered anew.

The data takes another way than in the text of a graph. It is kept as JSON, with its fields in the
order of their keys, until it is completed with a kind and a title and then read. Data that has both
is not changed by this, and its order does not matter.

* `NodeData.decode_keptFields`: data decodes from its fields in the order of their keys.
* `CanvasExport.toGraph_eq_ok_iff`: what the graph of an export is made of.
* `CanvasExport.decode_toJson`: an export reads back with the data kept in this way.
* `Graph.canvas_round_trip`: the export of a graph gives the graph with its nodes numbered anew.
-/

namespace FineTuning

open Json

/-! ## Data with its fields in order -/

theorem SelectedModel.decode_sorted {m : SelectedModel} (h : m.parameterCount.isFinite = true) :
    decode (.ofJson m.toJson.sorted) = .ok m := by
  refine Fields.record_sorted (by simp) ?_
  rw [sortedValues_eq_self (by simp)]
  exact decode_toJson h

/-- The one field that has fields itself is the selected model. -/
theorem ModelData.decode_sortedValues {d : ModelData}
    (h : ∀ m ∈ d.selectedModel, m.parameterCount.isFinite = true) :
    decode (.object (Reading.ofFields (sortedValues d.jsonFields.tail)) true) = .ok d := by
  have hfields : sortedValues d.jsonFields.tail =
      ("title", .string d.title) :: ("description", .string d.description) ::
        (fieldIfSome "selectedModel" (d.selectedModel.map (·.toJson.sorted)) ++
          [("isLocked", .bool d.isLocked)]) := by
    simp [jsonFields, NodeData.headFields, sortedValues, sortedValues_append,
      sortedValues_fieldIfSome, Function.comp_def]
  have hnull : ∀ m : SelectedModel, Reading.ofJson m.toJson.sorted ≠ .null := by
    intro m hm
    cases hm
  rw [hfields]
  exact decode_written hnull fun m hm => SelectedModel.decode_sorted (h m hm)

namespace NodeData

theorem nodup_keys (data : NodeData) : (data.jsonFields.map (·.1)).Nodup := by
  cases data with
  | dataset d =>
    obtain ⟨title, description, contentUrl, storageId, status, activeTab⟩ := d
    cases contentUrl <;> cases storageId <;> cases activeTab <;>
      simp [jsonFields, DatasetData.jsonFields, headFields, fieldIfSome]
  | model d =>
    obtain ⟨title, description, selectedModel, isLocked⟩ := d
    cases selectedModel <;> simp [jsonFields, ModelData.jsonFields, headFields, fieldIfSome]
  | training d => simp [jsonFields, TrainingData.jsonFields, headFields]

theorem decodeOfKind_sortedValues {data : NodeData} (h : ∀ d ∈ data.doubles, d.isFinite = true) :
    decodeOfKind data.kind (.object (Reading.ofFields (sortedValues data.jsonFields.tail)) true) =
      .ok data := by
  cases data with
  | dataset d =>
    have hplain : ∀ field ∈ (NodeData.dataset d).jsonFields.tail, field.2.sorted = field.2 := by
      simp only [jsonFields, DatasetData.jsonFields, headFields, List.cons_append, List.nil_append,
        List.tail_cons, List.forall_mem_cons, List.forall_mem_append, forall_mem_fieldIfSome]
      simp
    rw [sortedValues_eq_self hplain]
    exact decodeOfKind_jsonFields h
  | model d =>
    have hcount : ∀ m ∈ d.selectedModel, m.parameterCount.isFinite = true := fun m hm =>
      h _ (List.mem_map_of_mem (Option.mem_toList.mpr hm))
    simp only [kind, decodeOfKind, jsonFields, ModelData.decode_sortedValues hcount]
    rfl
  | training d =>
    have hplain : ∀ field ∈ (NodeData.training d).jsonFields.tail, field.2.sorted = field.2 := by
      simp [jsonFields, TrainingData.jsonFields, headFields]
    rw [sortedValues_eq_self hplain]
    exact decodeOfKind_jsonFields h

/-- The fields of the data as they are kept: in the order of their keys. -/
def keptFields (data : NodeData) : List (String × Json) :=
  sortFields (sortedValues data.jsonFields)

theorem keptFields_perm (data : NodeData) :
    data.keptFields.Perm
      (("kind", .string data.kind.name) :: sortedValues data.jsonFields.tail) := by
  have hcons : sortedValues data.jsonFields =
      ("kind", .string data.kind.name) :: sortedValues data.jsonFields.tail := by
    conv_lhs => rw [data.jsonFields_eq_cons, sortedValues, sorted_string]
  exact hcons ▸ perm_sortFields_sortedValues data.nodup_keys

/-- **Every kind of data reads back from what is kept of it.** -/
theorem decode_keptFields {data : NodeData} (h : ∀ d ∈ data.doubles, d.isFinite = true) :
    decode (.ofJson (.object data.keptFields)) = .ok data := by
  refine decode_perm data.keptFields_perm (fun field hfield => ?_) (decodeOfKind_sortedValues h)
  rw [sortedValues_eq_map] at hfield
  obtain ⟨written, hwritten, rfl⟩ := List.mem_map.mp hfield
  exact data.key_ne_kind written hwritten

end NodeData

namespace CanvasNode

theorem kindOfType?_name (kind : NodeKind) : kindOfType? kind.name = some kind := by
  cases kind <;> rfl

theorem completeFields_keptFields (data : NodeData) :
    completeFields data.kind data.keptFields = data.keptFields := by
  have hkind : ("kind", .string data.kind.name) ∈ data.keptFields :=
    data.keptFields_perm.mem_iff.mpr List.mem_cons_self
  have htitle : ("title", .string data.title) ∈ data.keptFields := by
    refine data.keptFields_perm.mem_iff.mpr (List.mem_cons_of_mem _ ?_)
    cases data <;> exact List.mem_cons_self
  obtain ⟨title, hfound⟩ := exists_field?_of_mem htitle
  have htagged : Json.insertField "kind" (.string data.kind.name) data.keptFields =
      data.keptFields := (ascending_sortFields _).insertField_of_mem hkind
  simp only [completeFields, htagged, hfound]

/-- The data of a node is that of its kind. -/
theorem dataOfKind_toJson {data : NodeData} (h : ∀ d ∈ data.doubles, d.isFinite = true)
    (nodeId : String) : dataOfKind nodeId data.kind data.toJson.sorted = .ok data := by
  have hread : NodeData.decode (.ofJson (.object (completeFields data.kind data.keptFields))) =
      .ok data := by
    rw [completeFields_keptFields, NodeData.decode_keptFields h]
  rw [NodeData.keptFields] at hread
  rw [NodeData.toJson, sorted, dataOfKind, hread]
  rfl

end CanvasNode

/-! ## What a graph takes from an export -/

namespace CanvasNode

/-- A node is read if its type and its data are understood. -/
theorem toNode_eq_ok_iff {node : CanvasNode} {createdSeq : Nat} {result : Node} :
    node.toNode createdSeq = .ok result ↔ ∃ kind data, kindOfType? node.type = some kind ∧
      dataOfKind node.id kind node.data = .ok data ∧
      result = ⟨node.id, node.position, createdSeq, data⟩ := by
  unfold toNode
  cases kindOfType? node.type with
  | none => simp
  | some kind =>
    simp [bind_eq_ok_iff, pure, Except.pure, @eq_comm _ result]

/-- What each node keeps, the nodes of a list keep in their order. -/
theorem map_of_toNodes {α : Type} {kept : Node → α} {given : CanvasNode → α}
    (hkeeps : ∀ node createdSeq result, toNode node createdSeq = .ok result →
      kept result = given node) {nodes : List CanvasNode} {createdSeq : Nat} {result : List Node}
    (h : toNodes createdSeq nodes = .ok result) : result.map kept = nodes.map given := by
  induction nodes generalizing createdSeq result with
  | nil =>
    cases h
    rfl
  | cons node rest ih =>
    obtain ⟨first, hfirst, h⟩ := bind_eq_ok_iff.mp h
    obtain ⟨others, hothers, h⟩ := bind_eq_ok_iff.mp h
    cases h
    rw [List.map_cons, List.map_cons, hkeeps node createdSeq first hfirst, ih hothers]

end CanvasNode

/-- The graph of an export has the nodes that are read and the edges between them. -/
theorem CanvasExport.toGraph_eq_ok_iff {canvas : CanvasExport} {g : Graph} :
    canvas.toGraph = .ok g ↔ CanvasNode.toNodes 1 canvas.nodes = .ok g.nodes ∧
      g.edges = canvas.edges.map (CanvasEdge.toEdge ⟨g.nodes, []⟩) ∧ g.HasIntegrity := by
  refine bind_eq_ok_iff.trans ⟨?_, ?_⟩
  · rintro ⟨nodes, hnodes, h⟩
    obtain ⟨hintegrity, rfl⟩ := Graph.checked_eq_ok_iff.mp h
    exact ⟨hnodes, rfl, hintegrity⟩
  · rintro ⟨hnodes, hedges, hintegrity⟩
    exact ⟨g.nodes, hnodes, Graph.checked_eq_ok_iff.mpr ⟨hedges ▸ hintegrity, by rw [← hedges]⟩⟩

/-! ## Exports -/

namespace CanvasNode

def toJson (node : CanvasNode) : Json :=
  .object [
    ("id", .string node.id),
    ("type", .string node.type),
    ("position", node.position.toJson),
    ("data", node.data)]

/-- The node as it is kept, with the fields of its data in order. -/
def kept (node : CanvasNode) : CanvasNode :=
  { node with data := node.data.sorted }

theorem decode_toJson {node : CanvasNode} (h : node.position.isFinite = true) :
    decode (.ofJson node.toJson) = .ok node.kept := by
  refine Fields.record_written ?_ (by decide) _ _
  refine .required rfl (.required rfl ?_)
  refine .withDefault (Position.decode_toJson h) ?_
  exact .withDefault (Decode.json_ofJson node.data) (.nil _)

end CanvasNode

namespace CanvasEdge

def toJson (edge : CanvasEdge) : Json :=
  .object (Json.fieldIfSome "id" (edge.id.map .string) ++
    [("source", .string edge.source), ("target", .string edge.target)] ++
    Json.fieldIfSome "sourceHandle" (edge.sourceHandle.map .string) ++
    Json.fieldIfSome "targetHandle" (edge.targetHandle.map .string))

theorem decode_toJson (edge : CanvasEdge) : decode (.ofJson edge.toJson) = .ok edge := by
  simp only [toJson, Reading.ofJson, Reading.ofFields, Reading.ofFields_append, List.append_assoc,
    List.cons_append, List.nil_append]
  refine Fields.record_written ?_ (by decide) _ _
  refine .ofOption rfl rfl nofun (fun id _ => rfl) ?_
  refine .required rfl (.required rfl ?_)
  refine .ofOption rfl rfl nofun (fun handle _ => rfl) ?_
  rw [← List.append_nil (Reading.ofFields _)]
  exact .ofOption rfl rfl nofun (fun handle _ => rfl) (.nil _)

end CanvasEdge

namespace CanvasExport

def toJson (canvas : CanvasExport) : Json :=
  .object [
    ("nodes", .array (canvas.nodes.map (·.toJson))),
    ("edges", .array (canvas.edges.map (·.toJson)))]

/-- The export as it is kept, with the fields of the data of its nodes in order. -/
def kept (canvas : CanvasExport) : CanvasExport :=
  { canvas with nodes := canvas.nodes.map (·.kept) }

/-- **Exports read back.** -/
theorem decode_toJson {canvas : CanvasExport}
    (h : ∀ node ∈ canvas.nodes, node.position.isFinite = true) :
    decode (.ofJson canvas.toJson) = .ok canvas.kept := by
  refine Fields.record_written ?_ (by decide) _ _
  refine .required (Decode.list_ofJson_map fun node hn => CanvasNode.decode_toJson (h node hn)) ?_
  exact .withDefault (Decode.list_ofJson fun edge _ => edge.decode_toJson) (.nil _)

end CanvasExport

/-! ## Graphs -/

/-- The node as the canvas saves it. -/
def Node.toCanvas (n : Node) : CanvasNode :=
  ⟨n.id, n.kind.name, n.position, n.data.toJson⟩

/-- The edge as the canvas saves it. -/
def Edge.toCanvas (e : Edge) : CanvasEdge :=
  ⟨some e.id, e.source, e.target, some e.sourceHandle, some e.targetHandle⟩

namespace Graph

/-- The graph as the canvas saves it. -/
def toCanvas (g : Graph) : CanvasExport :=
  ⟨g.nodes.map (·.toCanvas), g.edges.map (·.toCanvas)⟩

/-- The graph with its nodes numbered in their order, from one. -/
def renumbered (g : Graph) : Graph :=
  { g with nodes := g.nodes.mapIdx fun i n => { n with createdSeq := i + 1 } }

end Graph

theorem Node.toNode_toCanvas {n : Node} (h : ∀ d ∈ n.data.doubles, d.isFinite = true)
    (createdSeq : Nat) : n.toCanvas.kept.toNode createdSeq = .ok { n with createdSeq } := by
  have hkind : CanvasNode.kindOfType? n.toCanvas.kept.type = some n.kind :=
    CanvasNode.kindOfType?_name n.kind
  have hdata : CanvasNode.dataOfKind n.toCanvas.kept.id n.kind n.toCanvas.kept.data = .ok n.data :=
    CanvasNode.dataOfKind_toJson h n.id
  exact CanvasNode.toNode_eq_ok_iff.mpr ⟨n.kind, n.data, hkind, hdata, rfl⟩

theorem Node.toNodes_toCanvas {nodes : List Node}
    (h : ∀ n ∈ nodes, ∀ d ∈ n.data.doubles, d.isFinite = true) (createdSeq : Nat) :
    CanvasNode.toNodes createdSeq (nodes.map (·.toCanvas.kept)) =
      .ok (nodes.mapIdx fun i n => { n with createdSeq := i + createdSeq }) := by
  induction nodes generalizing createdSeq with
  | nil => rfl
  | cons n rest ih =>
    obtain ⟨hn, hrest⟩ := List.forall_mem_cons.mp h
    have hlater : (rest.mapIdx fun i n => { n with createdSeq := i + (createdSeq + 1) }) =
        rest.mapIdx fun i n => { n with createdSeq := i + 1 + createdSeq } := by
      simp only [Nat.add_assoc, Nat.add_comm 1]
    rw [List.map_cons, CanvasNode.toNodes, n.toNode_toCanvas hn, ih hrest, List.mapIdx_cons, hlater,
      Nat.zero_add]
    rfl

theorem Edge.toEdge_toCanvas (e : Edge) (nodes : Graph) : e.toCanvas.toEdge nodes = e := rfl

namespace Graph

theorem nodeIds_renumbered (g : Graph) : g.renumbered.nodeIds = g.nodeIds := by
  refine List.ext_getElem? fun i => ?_
  simp only [nodeIds, renumbered, List.getElem?_map, List.getElem?_mapIdx, Option.map_map]
  rfl

/-- Integrity does not depend on the numbers. -/
theorem HasIntegrity.renumbered {g : Graph} (h : g.HasIntegrity) : g.renumbered.HasIntegrity where
  nodup_nodeIds := g.nodeIds_renumbered ▸ h.nodup_nodeIds
  source_mem := g.nodeIds_renumbered ▸ h.source_mem
  target_mem := g.nodeIds_renumbered ▸ h.target_mem

theorem fitsIn_toJson_toCanvas {g : Graph} (h : ∀ d ∈ g.doubles, d.isFinite = true → d.ReadsBack) :
    g.toCanvas.toJson.FitsIn 0 := by
  have hlimit : ∀ outer ≤ 4, outer < Reading.depthLimit := by decide
  have hnode : ∀ n ∈ g.nodes, n.toCanvas.toJson.FitsIn 2 := fun n hn => by
    have hn : ∀ d ∈ n.doubles, d.isFinite = true → d.ReadsBack := fun d hd =>
      h d (List.mem_flatMap.mpr ⟨n, hn, hd⟩)
    have hdata : n.data.toJson.FitsIn 3 :=
      NodeData.fitsIn_toJson (fun d hd => hn d (by simp [Node.doubles, hd])) (hlimit 4 (by decide))
    have hx := Json.fitsIn_ofDouble (hn n.position.x (by simp [Node.doubles])) 4
    have hy := Json.fitsIn_ofDouble (hn n.position.y (by simp [Node.doubles])) 4
    simp [Node.toCanvas, CanvasNode.toJson, Position.toJson, hlimit, hdata, hx, hy]
  simpa [toCanvas, CanvasExport.toJson, Edge.toCanvas, CanvasEdge.toJson, fieldIfSome, hlimit] using
    hnode

theorem toGraph_toCanvas {g : Graph} (hintegrity : g.HasIntegrity)
    (hfinite : ∀ d ∈ g.doubles, d.isFinite = true) :
    g.toCanvas.kept.toGraph = .ok g.renumbered := by
  have hnodes : CanvasNode.toNodes 1 g.toCanvas.kept.nodes = .ok g.renumbered.nodes := by
    have hdata : ∀ n ∈ g.nodes, ∀ d ∈ n.data.doubles, d.isFinite = true := fun n hn d hd =>
      hfinite d (List.mem_flatMap.mpr ⟨n, hn, by simp [Node.doubles, hd]⟩)
    rw [CanvasExport.kept, toCanvas, List.map_map]
    exact Node.toNodes_toCanvas hdata 1
  have hedges : g.toCanvas.kept.edges.map (·.toEdge ⟨g.renumbered.nodes, []⟩) = g.edges := by
    simp [CanvasExport.kept, toCanvas, Function.comp_def, Edge.toEdge_toCanvas]
  exact CanvasExport.toGraph_eq_ok_iff.mpr ⟨hnodes, hedges.symm, hintegrity.renumbered⟩

/-- **The canvas agrees with the texts of graphs.** A graph with integrity and finite doubles that
is written as the canvas saves it reads back as an export, and this gives the graph with its nodes
numbered from one, and nothing else changed. The numbers are assumed to read back from their own
texts. -/
theorem canvas_round_trip {g : Graph} (hintegrity : g.HasIntegrity)
    (hfinite : ∀ d ∈ g.doubles, d.isFinite = true)
    (hreads : ∀ d ∈ g.doubles, d.isFinite = true → d.ReadsBack) {layout : Layout}
    (hlayout : layout.IsBlank) :
    CanvasExport.ofText (String.ofList (write layout 0 g.toCanvas.toJson)) = .ok g.toCanvas.kept ∧
      g.toCanvas.kept.toGraph = .ok g.renumbered := by
  refine ⟨?_, toGraph_toCanvas hintegrity hfinite⟩
  have hposition : ∀ node ∈ g.toCanvas.nodes, node.position.isFinite = true := by
    refine List.forall_mem_map.mpr fun n hn => ?_
    have hn : ∀ d ∈ n.doubles, d.isFinite = true := fun d hd =>
      hfinite d (List.mem_flatMap.mpr ⟨n, hn, hd⟩)
    have hx : n.position.x.isFinite = true := hn _ (by simp [Node.doubles])
    have hy : n.position.y.isFinite = true := hn _ (by simp [Node.doubles])
    exact Bool.and_eq_true_iff.mpr ⟨hx, hy⟩
  rw [CanvasExport.ofText, decodeText_write hlayout (fitsIn_toJson_toCanvas hreads),
    CanvasExport.decode_toJson hposition]
  rfl

/-- A graph with gaps between the numbers of its nodes. -/
def gapsGraph : Graph where
  nodes := [
    ⟨"x", ⟨.ofRatio false 1 2, .zero⟩, 5, .dataset { DatasetData.initial with
      title := "", contentUrl := some "s3://a", status := .ready, activeTab := some "preview" }⟩,
    ⟨"m", .origin, 2, .model { ModelData.initial with
      selectedModel := some ⟨"small", "Small", "", .ofRatio false 3 2⟩, isLocked := true }⟩,
    ⟨"", .origin, 9, .training { TrainingData.initial with epochs := 70, quantization := "?" }⟩]
  edges := [
    ⟨"e", "x", "m", "dataset-output", "model-input"⟩,
    ⟨"e", "m", "m", "", "nowhere"⟩]

theorem canvas_round_trip_gaps :
    CanvasExport.ofText (String.ofList (write .indented 0 gapsGraph.toCanvas.toJson)) =
        .ok gapsGraph.toCanvas.kept ∧
      gapsGraph.toCanvas.kept.toGraph = .ok gapsGraph.renumbered ∧
      gapsGraph.renumbered.nodes.map (·.createdSeq) = [1, 2, 3] := by
  have hintegrity : gapsGraph.HasIntegrity := ⟨by decide, by decide, by decide⟩
  have hfinite : ∀ d ∈ gapsGraph.doubles, d.isFinite = true := by decide +kernel
  have hreads : ∀ d ∈ gapsGraph.doubles, d.isFinite = true → d.ReadsBack := by decide +kernel
  have hback := canvas_round_trip hintegrity hfinite hreads Layout.isBlank_indented
  exact ⟨hback.1, hback.2, rfl⟩

end Graph

end FineTuning

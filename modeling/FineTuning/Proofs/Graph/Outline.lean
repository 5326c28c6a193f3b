import FineTuning.Proofs.Graph.TrainingPath
import Mathlib.Data.List.Find
import Mathlib.Data.Set.Function

/-!
# Outlines of graphs

The outline of a graph is what a job depends on: the kinds of the nodes with the settings and
references that go into a job, and the edges with their handles. Ids matter only by which of them
are equal, so an outline may have other ids.

* `node?_outline`, `incoming_outline`: what is found in an outline.
* `trainingPath_outline`: validation follows the same path in the outline.
-/

namespace FineTuning

/-! ## Outlines -/

/-- The data with only what says where the content is. -/
def DatasetData.outline (data : DatasetData) : DatasetData :=
  { initial with
    contentUrl := data.contentUrl
    storageId := data.storageId }

/-- The data with only the id of the selected model. -/
def ModelData.outline (data : ModelData) : ModelData :=
  { initial with selectedModel := data.selectedModel.map fun model => ⟨model.id, "", "", .zero⟩ }

/-- The data with only the settings. -/
def TrainingData.outline (data : TrainingData) : TrainingData :=
  { initial with
    epochs := data.epochs
    batchSize := data.batchSize
    quantization := data.quantization
    downloadQuant := data.downloadQuant }

@[simp] theorem TrainingData.quantization_outline (data : TrainingData) :
    data.outline.quantization = data.quantization := rfl

@[simp] theorem TrainingData.downloadQuant_outline (data : TrainingData) :
    data.outline.downloadQuant = data.downloadQuant := rfl

/-- The data with blanks in place of what has no part in a job. -/
def NodeData.outline : NodeData → NodeData
  | .dataset data => .dataset data.outline
  | .model data => .model data.outline
  | .training data => .training data.outline

/-- The node under another id, without its place on the canvas and in the order of creation. -/
def Node.outline (rename : String → String) (node : Node) : Node :=
  ⟨rename node.id, .origin, 0, node.data.outline⟩

/-- The edge between the other ids, without an id of its own. -/
def Edge.outline (rename : String → String) (e : Edge) : Edge :=
  ⟨"", rename e.source, rename e.target, e.sourceHandle, e.targetHandle⟩

/-- The same error about the other ids. -/
def TopologyError.rename (rename : String → String) : TopologyError → TopologyError
  | .noTrainingNode => .noTrainingNode
  | .multipleTrainingNodes count => .multipleTrainingNodes count
  | .trainingNodeUnconnected trainingId => .trainingNodeUnconnected (rename trainingId)
  | .trainingNodeOverConnected trainingId count =>
    .trainingNodeOverConnected (rename trainingId) count
  | .trainingConnectedToNonModel nodeId => .trainingConnectedToNonModel (rename nodeId)
  | .modelHasNoDatasets modelId => .modelHasNoDatasets (rename modelId)
  | .nonDatasetConnectedToModel nodeId => .nonDatasetConnectedToModel (rename nodeId)

/-- The same report about the other ids. -/
def TopologyReport.rename (rename : String → String) (report : TopologyReport) :
    TopologyReport where
  isValid := report.isValid
  errors := report.errors.map (·.rename rename)
  training := report.training.map rename
  model := report.model.map rename
  datasets := report.datasets.map rename

/-- The path in the outline. -/
def TrainingPath.outline (rename : String → String) (path : TrainingPath) : TrainingPath :=
  ⟨path.training.outline rename, path.model.outline rename, path.datasets.map (·.outline rename)⟩

theorem TopologyReport.valid_outline (rename : String → String) (path : TrainingPath) :
    valid (path.outline rename) = (valid path).rename rename := by
  simp [valid, TopologyReport.rename, TrainingPath.outline, Node.outline]

@[simp] theorem Node.kind_outline (rename : String → String) (node : Node) :
    (node.outline rename).kind = node.kind := by
  cases hdata : node.data <;> simp [outline, kind, hdata, NodeData.outline, NodeData.kind]

/-! ## Lists under other names -/

section Lists

variable {α β : Type} [BEq α] [LawfulBEq α] [BEq β] [LawfulBEq β] {f : α → β}

theorem contains_map_of_injOn {l : List α} {x : α} {s : Set α} (hf : Set.InjOn f s)
    (hl : ∀ y ∈ l, y ∈ s) (hx : x ∈ s) : (l.map f).contains (f x) = l.contains x := by
  rw [Bool.eq_iff_iff, List.contains_iff_mem, List.contains_iff_mem, List.mem_map]
  constructor
  · rintro ⟨y, hy, heq⟩
    rwa [← hf (hl y hy) hx heq]
  · exact fun hmem => ⟨x, hmem, rfl⟩

/-- Without their repetitions, the elements under other names are those without repetitions. -/
theorem eraseDups_map_of_injOn {l : List α} {s : Set α} (hf : Set.InjOn f s)
    (hl : ∀ x ∈ l, x ∈ s) : (l.map f).eraseDups = l.eraseDups.map f := by
  match l with
  | [] => rfl
  | x :: rest =>
    have hrest : ∀ y ∈ rest, y ∈ s := fun y hy => hl y (List.mem_cons_of_mem _ hy)
    have hfilter : (rest.map f).filter (fun y => !y == f x) =
        (rest.filter fun y => !y == x).map f := by
      rw [List.filter_map]
      congr 1
      refine List.filter_congr fun y hy => ?_
      have hbeq : (f y == f x) = (y == x) := by
        rw [Bool.eq_iff_iff, beq_iff_eq, beq_iff_eq,
          hf.eq_iff (hrest y hy) (hl x (List.mem_cons_self ..))]
      rw [Function.comp_apply, hbeq]
    rw [List.map_cons, List.eraseDups_cons, hfilter,
      eraseDups_map_of_injOn hf fun y hy => hrest y (List.mem_of_mem_filter hy),
      List.eraseDups_cons, List.map_cons]
termination_by l.length
decreasing_by exact Nat.lt_succ_of_le (List.length_filter_le ..)

end Lists

theorem exactlyOne_map {α β ε ε' : Type} (f : α → β) (onError : ε → ε') (none : ε)
    (many : Nat → ε) (l : List α) :
    exactlyOne (onError none) (onError ∘ many) (l.map f) =
      translate (List.map onError) f (exactlyOne none many l) := by
  match l with
  | [] => rfl
  | [x] => rfl
  | x :: y :: rest => simp [exactlyOne]

namespace Graph

/-- The outline of the graph under other ids. -/
def outline (rename : String → String) (g : Graph) : Graph :=
  ⟨g.nodes.map (·.outline rename), g.edges.map (·.outline rename)⟩

/-- The id is that of a node or of an end of an edge. -/
def Mentions (g : Graph) (id : String) : Prop :=
  id ∈ g.nodeIds ∨ ∃ e ∈ g.edges, e.source = id ∨ e.target = id

variable {g : Graph} {rename : String → String} {id : String} {node : Node}

theorem mentions_id (h : node ∈ g.nodes) : g.Mentions node.id := .inl (id_mem_nodeIds h)

theorem mentions_source {e : Edge} (h : e ∈ g.edges) : g.Mentions e.source :=
  .inr ⟨e, h, .inl rfl⟩

theorem mentions_target {e : Edge} (h : e ∈ g.edges) : g.Mentions e.target :=
  .inr ⟨e, h, .inr rfl⟩

/-! ## Look-up -/

theorem nodesOfKind_outline (g : Graph) (rename : String → String) (kind : NodeKind) :
    (g.outline rename).nodesOfKind kind = (g.nodesOfKind kind).map (·.outline rename) := by
  simp only [nodesOfKind, outline, List.filter_map, Function.comp_def, Node.kind_outline]

section Injective

variable (hrename : Set.InjOn rename {id | g.Mentions id})
include hrename

/-- Different ids of the graph stay different. -/
theorem rename_beq {a b : String} (ha : g.Mentions a) (hb : g.Mentions b) :
    (rename a == rename b) = (a == b) := by
  rw [Bool.eq_iff_iff, beq_iff_eq, beq_iff_eq, hrename.eq_iff ha hb]

theorem node?_outline (hid : g.Mentions id) :
    (g.outline rename).node? (rename id) = (g.node? id).map (·.outline rename) := by
  simp only [node?, outline, List.find?_map]
  congr 1
  exact List.find?_congr fun node hnode => rename_beq hrename (mentions_id hnode) hid

theorem kindOf?_outline (hid : g.Mentions id) :
    (g.outline rename).kindOf? (rename id) = g.kindOf? id := by
  simp only [kindOf?, node?_outline hrename hid, Option.map_map, Function.comp_def,
    Node.kind_outline]

theorem incoming_outline (hid : g.Mentions id) (handle : Handle) :
    (g.outline rename).incoming (rename id) handle =
      (g.incoming id handle).map (·.outline rename) := by
  simp only [incoming, outline, List.filter_map]
  congr 1
  refine List.filter_congr fun e he => ?_
  simp only [Function.comp_apply, Edge.endsAt, Edge.outline,
    rename_beq hrename (mentions_target he) hid]

theorem modelAt_outline (hid : g.Mentions id) :
    (g.outline rename).modelAt (rename id) =
      translate (List.map (·.rename rename)) (·.outline rename) (g.modelAt id) := by
  simp only [modelAt, node?_outline hrename hid, Option.filter_map, Function.comp_def,
    Node.kind_outline]
  cases (g.node? id).filter (·.kind == .model) <;> rfl

/-! ## The path -/

theorem onlyModelEdge_outline (hid : g.Mentions id) :
    (g.outline rename).onlyModelEdge (rename id) =
      translate (List.map (·.rename rename)) (·.outline rename) (g.onlyModelEdge id) := by
  rw [onlyModelEdge_eq, onlyModelEdge_eq]
  show exactlyOne _ _ ((g.outline rename).incoming (rename id) .trainingInput) = _
  rw [incoming_outline hrename hid]
  exact exactlyOne_map (Edge.outline rename) (TopologyError.rename rename)
    (TopologyError.trainingNodeUnconnected id) (TopologyError.trainingNodeOverConnected id)
    (g.incoming id .trainingInput)

theorem datasetsOf_outline (hid : g.Mentions id) :
    (g.outline rename).datasetsOf (rename id) =
      translate (List.map (·.rename rename)) (List.map (·.outline rename)) (g.datasetsOf id) := by
  have hsources : ((g.outline rename).incoming (rename id) .modelInput).map (·.source) =
      ((g.incoming id .modelInput).map (·.source)).map rename := by
    rw [incoming_outline hrename hid, List.map_map, List.map_map]
    rfl
  have hmentions : ∀ source ∈ (g.incoming id .modelInput).map (·.source), g.Mentions source := by
    intro source hsource
    obtain ⟨e, he, rfl⟩ := List.mem_map.mp hsource
    exact mentions_source (List.mem_of_mem_filter he)
  simp only [datasetsOf, hsources]
  generalize (g.incoming id .modelInput).map (·.source) = sources at hmentions
  have hothers : ((sources.map rename).filter
      ((g.outline rename).kindOf? · != some .dataset)).eraseDups =
      ((sources.filter (g.kindOf? · != some .dataset)).eraseDups).map rename := by
    rw [List.filter_map, ← eraseDups_map_of_injOn hrename
      fun source hsource => hmentions source (List.mem_of_mem_filter hsource)]
    congr 2
    refine List.filter_congr fun source hsource => ?_
    rw [Function.comp_apply, kindOf?_outline hrename (hmentions source hsource)]
  have hfeeders : (g.outline rename).nodes.filter ((sources.map rename).contains ·.id) =
      (g.nodes.filter (sources.contains ·.id)).map (·.outline rename) := by
    simp only [outline, List.filter_map]
    congr 1
    exact List.filter_congr fun node hnode =>
      contains_map_of_injOn hrename hmentions (mentions_id hnode)
  rw [hothers, hfeeders, List.isEmpty_map, List.isEmpty_map]
  split
  · rfl
  · split
    · rfl
    · simp [TopologyError.rename]

end Injective

theorem onlyTraining_outline (g : Graph) (rename : String → String) :
    (g.outline rename).onlyTraining =
      translate (List.map (·.rename rename)) (·.outline rename) g.onlyTraining := by
  rw [onlyTraining_eq, onlyTraining_eq]
  show exactlyOne _ _ ((g.outline rename).nodesOfKind .training) = _
  rw [nodesOfKind_outline]
  exact exactlyOne_map (Node.outline rename) (TopologyError.rename rename)
    TopologyError.noTrainingNode TopologyError.multipleTrainingNodes (g.nodesOfKind .training)

/-- **The outline of a graph has the outline of its training path,** or breaks the same rules. -/
theorem trainingPath_outline (hrename : Set.InjOn rename {id | g.Mentions id}) :
    (g.outline rename).trainingPath =
      translate (List.map (·.rename rename)) (·.outline rename) g.trainingPath := by
  refine translate_bind (onlyTraining_outline g rename) fun t ht => ?_
  have ht := (onlyTraining_eq_ok_iff.mp ht).mem
  refine translate_bind (onlyModelEdge_outline hrename (mentions_id ht)) fun e he => ?_
  have he := (of_onlyModelEdge_eq_ok he).1
  refine translate_bind (modelAt_outline hrename (mentions_source he)) fun m hm => ?_
  have hm := (of_modelAt_eq_ok hm).1
  exact translate_bind (datasetsOf_outline hrename (mentions_id hm)) fun datasets _ => rfl

end Graph

end FineTuning

import FineTuning.Proofs.Graph.StoreEdits
import Mathlib.Data.List.Perm.Basic

/-!
# Updates and deletions in any order

Edits that add nothing act on every node and every edge by itself. A node is gone once an edit
deletes it, and until then takes the patches that are for it, one after the other; an edge is gone
once an edit names it or deletes one of its ends. So what a list of such edits leaves can be said at
once, and only the order of the patches for one node shows in it.

* `Store.graph_edit_of_addsNothing`: one edit, on a graph that has integrity. Without integrity a
  deletion could find no node and leave an edge that should go with it.
* `Graph.edited_cons`: edits one after the other are edits at once.
* `Store.foldl_edit_of_addsNothing`: what a list of edits leaves.
* `Store.foldl_edit_perm`: the edits can be reordered.
-/

namespace FineTuning

namespace StoreEdit

/-- The edit updates or deletes. -/
inductive AddsNothing : StoreEdit → Prop
  | updateNode (id : String) (patch : NodePatch) : AddsNothing (.updateNode id patch)
  | deleteNode (id : String) : AddsNothing (.deleteNode id)
  | disconnect (reference : EdgeReference) : AddsNothing (.disconnect reference)

/-- Whether the edit is an update of the node with the id. -/
def updates (edit : StoreEdit) (id : String) : Bool :=
  match edit with
  | .updateNode updated _ => updated == id
  | _ => false

/-- Whether the edit deletes the node. -/
def dropsNode (edit : StoreEdit) (node : Node) : Bool :=
  match edit with
  | .deleteNode id => node.id == id
  | _ => false

/-- Whether the edit deletes the edge, by itself or with one of its ends. -/
def dropsEdge (edit : StoreEdit) (edge : Edge) : Bool :=
  match edit with
  | .deleteNode id => edge.touches id
  | .disconnect reference => reference.names edge
  | _ => false

/-- The node with its data patched, if the edit is an update of it that applies. -/
def amend (edit : StoreEdit) (node : Node) : Node :=
  match edit with
  | .updateNode id patch =>
    if node.id = id then { node with data := (patch.applyTo? node.data).getD node.data } else node
  | _ => node

@[simp] theorem amend_id (edit : StoreEdit) (node : Node) : (edit.amend node).id = node.id := by
  cases edit with
  | updateNode id patch =>
    rw [amend]
    split <;> rfl
  | _ => rfl

/-- An edit that is no update of the node leaves it as it is. -/
theorem amend_of_not_updates {edit : StoreEdit} {node : Node} (h : edit.updates node.id = false) :
    edit.amend node = node := by
  cases edit with
  | updateNode id patch =>
    have hid : id ≠ node.id := by simpa [updates] using h
    rw [amend, if_neg hid.symm]
  | _ => rfl

/-- The node with the data that all the updates of it leave. -/
def amendAll (edits : List StoreEdit) (node : Node) : Node :=
  edits.foldl (fun amended edit => edit.amend amended) node

@[simp] theorem amendAll_nil : amendAll [] = fun node => node := rfl

@[simp] theorem amendAll_singleton (edit : StoreEdit) : amendAll [edit] = edit.amend := rfl

/-- Only the updates of a node matter to it. -/
theorem amendAll_filter_updates (edits : List StoreEdit) (node : Node) :
    amendAll (edits.filter (·.updates node.id)) node = amendAll edits node := by
  induction edits generalizing node with
  | nil => rfl
  | cons edit rest ih =>
    cases hupdates : edit.updates node.id with
    | true =>
      have hrest := ih (edit.amend node)
      rw [amend_id] at hrest
      simp only [List.filter_cons, hupdates, ↓reduceIte]
      exact hrest
    | false =>
      have hsame := amend_of_not_updates hupdates
      simp only [List.filter_cons, hupdates, Bool.false_eq_true, ↓reduceIte, ih]
      rw [amendAll, amendAll, List.foldl_cons, hsame]

end StoreEdit

namespace Graph

variable {g : Graph} {id : String}

/-! ## What edits leave -/

/-- What is left of a graph by edits that add nothing. -/
def edited (g : Graph) (edits : List StoreEdit) : Graph where
  nodes := (g.nodes.filter fun node => !edits.any (·.dropsNode node)).map (StoreEdit.amendAll edits)
  edges := g.edges.filter fun edge => !edits.any (·.dropsEdge edge)

@[simp] theorem edited_nil (g : Graph) : g.edited [] = g := by
  simp [edited]

theorem edited_updateNode (g : Graph) (id : String) (patch : NodePatch) :
    g.edited [.updateNode id patch] =
      { g with nodes := g.nodes.map (StoreEdit.updateNode id patch).amend } := by
  simp [edited, StoreEdit.dropsNode, StoreEdit.dropsEdge]

theorem edited_deleteNode (g : Graph) (id : String) :
    g.edited [.deleteNode id] =
      ⟨g.nodes.filter (·.id != id), g.edges.filter (!·.touches id)⟩ := by
  have hamend : (StoreEdit.deleteNode id).amend = fun node => node := rfl
  simp [edited, StoreEdit.dropsNode, StoreEdit.dropsEdge, hamend, bne]

theorem edited_disconnect (g : Graph) (reference : EdgeReference) :
    g.edited [.disconnect reference] =
      { g with edges := g.edges.filter (!reference.names ·) } := by
  have hamend : (StoreEdit.disconnect reference).amend = fun node => node := rfl
  simp [edited, StoreEdit.dropsNode, StoreEdit.dropsEdge, hamend]

/-- Edits one after the other leave what they leave at once. -/
theorem edited_cons (g : Graph) (edit : StoreEdit) (edits : List StoreEdit) :
    g.edited (edit :: edits) = (g.edited [edit]).edited edits := by
  have hdrops : ∀ (later : StoreEdit) (node : Node),
      later.dropsNode (edit.amend node) = later.dropsNode node := by
    intro later node
    cases later <;> simp only [StoreEdit.dropsNode, StoreEdit.amend_id]
  simp only [edited, Graph.mk.injEq]
  constructor
  · rw [List.filter_map, List.map_map, List.filter_filter]
    congr 1
    refine List.filter_congr fun node _ => ?_
    simp only [List.any_cons, List.any_nil, Bool.or_false, Bool.not_or, Function.comp_apply,
      StoreEdit.amendAll, List.foldl_cons, List.foldl_nil, hdrops, Bool.and_comm]
  · rw [List.filter_filter]
    refine List.filter_congr fun edge _ => ?_
    simp only [List.any_cons, List.any_nil, Bool.or_false, Bool.not_or, Bool.and_comm]

/-- What edits leave depends on which edits there are, and on the order of the updates of each
node. -/
theorem edited_congr {edits edits' : List StoreEdit} (hmem : ∀ edit, edit ∈ edits' ↔ edit ∈ edits)
    (horder : ∀ id, edits'.filter (·.updates id) = edits.filter (·.updates id)) (g : Graph) :
    g.edited edits' = g.edited edits := by
  have hany : ∀ p : StoreEdit → Bool, edits'.any p = edits.any p := by
    intro p
    rw [Bool.eq_iff_iff]
    simp only [List.any_eq_true, hmem]
  have hamend : StoreEdit.amendAll edits' = StoreEdit.amendAll edits := by
    funext node
    rw [← StoreEdit.amendAll_filter_updates, horder, StoreEdit.amendAll_filter_updates]
  simp only [edited, hany, hamend]

end Graph

/-! ## Edits of a store -/

namespace Store

variable {s : Store} {edit : StoreEdit} {edits edits' : List StoreEdit}

/-- Edits that add nothing leave the counters as they are. -/
theorem edit_eq_of_addsNothing (h : edit.AddsNothing) :
    s.edit edit = { s with graph := (s.edit edit).graph } := by
  cases h with
  | updateNode =>
    simp only [Store.edit, perform, updateNode]
    split <;> rfl
  | deleteNode =>
    simp only [Store.edit, perform, deleteNode]
    split <;> rfl
  | disconnect =>
    simp only [Store.edit, perform, disconnect]
    split <;> rfl

/-- An update is one of all nodes with the id, because there is only one at most. -/
theorem graph_edit_updateNode_eq_edited (hg : s.graph.HasIntegrity) (id : String)
    (patch : NodePatch) :
    (s.edit (.updateNode id patch)).graph = s.graph.edited [.updateNode id patch] := by
  have hfound : ∀ node ∈ s.graph.nodes, node.id = id → s.graph.node? id = some node :=
    fun node hnode hid => (Graph.node?_eq_some_iff hg.nodup_nodeIds).mpr ⟨hnode, hid⟩
  rw [Graph.edited_updateNode]
  simp only [Store.edit, perform, updateNode]
  split
  · rename_i data h
    obtain ⟨node, hnode, hdata⟩ := Option.bind_eq_some_iff.mp h
    simp only [Graph.setData, Graph.mk.injEq, and_true]
    rw [Graph.setFirst_eq_map hg.nodup_nodeIds]
    refine List.map_congr_left fun other hother => ?_
    by_cases hid : other.id = id
    · obtain rfl := Option.some.inj ((hfound other hother hid).symm.trans hnode)
      simp [StoreEdit.amend, hid, hdata]
    · simp [StoreEdit.amend, hid]
  · rename_i h
    have hsame : ∀ node ∈ s.graph.nodes, (StoreEdit.updateNode id patch).amend node = node := by
      intro node hnode
      by_cases hid : node.id = id
      · rw [hfound node hnode hid, Option.bind_some] at h
        simp [StoreEdit.amend, h]
      · simp [StoreEdit.amend, hid]
    rw [List.map_congr_left hsame, List.map_id']

/-- One edit leaves what is said at once about it. -/
theorem graph_edit_of_addsNothing (hg : s.graph.HasIntegrity) (h : edit.AddsNothing) :
    (s.edit edit).graph = s.graph.edited [edit] := by
  cases h with
  | updateNode id patch => exact graph_edit_updateNode_eq_edited hg id patch
  | deleteNode id => rw [graph_edit_deleteNode_of_hasIntegrity hg, Graph.edited_deleteNode]
  | disconnect reference => rw [graph_edit_disconnect, Graph.edited_disconnect]

/-- **What a list of edits leaves** that add nothing. -/
theorem foldl_edit_of_addsNothing (hg : s.graph.HasIntegrity)
    (hedits : ∀ edit ∈ edits, edit.AddsNothing) :
    edits.foldl Store.edit s = { s with graph := s.graph.edited edits } := by
  induction edits generalizing s with
  | nil => rw [Graph.edited_nil, List.foldl_nil]
  | cons edit rest ih =>
    obtain ⟨hedit, hrest⟩ := List.forall_mem_cons.mp hedits
    have hkept : (s.edit edit).graph.HasIntegrity := (s.change_edit edit).hasIntegrity hg
    rw [List.foldl_cons, ih hkept hrest, Graph.edited_cons, graph_edit_of_addsNothing hg hedit,
      edit_eq_of_addsNothing hedit]

/-- **Updates and deletions can be reordered.** If the updates of each node keep their order, the
others may come in any order, between them too, and the store ends the same. -/
theorem foldl_edit_perm (hg : s.graph.HasIntegrity) (hedits : ∀ edit ∈ edits, edit.AddsNothing)
    (hperm : edits'.Perm edits)
    (horder : ∀ id, edits'.filter (·.updates id) = edits.filter (·.updates id)) :
    edits'.foldl Store.edit s = edits.foldl Store.edit s := by
  have hedits' : ∀ edit ∈ edits', edit.AddsNothing :=
    fun edit hedit => hedits edit (hperm.mem_iff.mp hedit)
  rw [foldl_edit_of_addsNothing hg hedits', foldl_edit_of_addsNothing hg hedits,
    Graph.edited_congr (fun _ => hperm.mem_iff) horder]

/-- A dataset is updated twice, and the model that it feeds is deleted. The edge between them goes
with the model or is deleted before it, and nothing is left to do for the other edit; there is no
node `x` at all. -/
theorem foldl_edit_perm_two :
    let s : Store := ⟨⟨[⟨"d", .origin, 1, .initial .dataset⟩, ⟨"m", .origin, 2, .initial .model⟩],
      [⟨"e", "d", "m", "dataset-output", "model-input"⟩]⟩, 3, 3⟩
    let first : StoreEdit := .updateNode "d" (.dataset { title := some "A", storageId := some "a" })
    let second : StoreEdit := .updateNode "d" (.dataset { title := some "B" })
    let edits := [first, .deleteNode "m", .disconnect (.byId "e"), second, .deleteNode "x"]
    let edits' := [.disconnect (.byId "e"), first, .deleteNode "x", second, .deleteNode "m"]
    s.graph.HasIntegrity ∧ (∀ edit ∈ edits, edit.AddsNothing) ∧ edits'.Perm edits ∧
      (∀ id, edits'.filter (·.updates id) = edits.filter (·.updates id)) ∧
      edits'.foldl Store.edit s = edits.foldl Store.edit s ∧
      edits.foldl Store.edit s = ⟨⟨[⟨"d", .origin, 1, .dataset
        { DatasetData.initial with title := "B", storageId := some "a" }⟩], []⟩, 3, 3⟩ := by
  intro s first second edits edits'
  have hg : s.graph.HasIntegrity := ⟨by decide, by decide, by decide⟩
  have hedits : ∀ edit ∈ edits, edit.AddsNothing := by
    simp only [edits, List.forall_mem_cons]
    exact ⟨.updateNode .., .deleteNode _, .disconnect _, .updateNode .., .deleteNode _, nofun⟩
  have hperm : edits'.Perm edits := by decide
  have horder : ∀ id, edits'.filter (·.updates id) = edits.filter (·.updates id) := by
    intro id
    by_cases hid : "d" = id
    · simp [edits, edits', first, second, StoreEdit.updates, hid]
    · simp [edits, edits', first, second, StoreEdit.updates, hid]
  exact ⟨hg, hedits, hperm, horder, foldl_edit_perm hg hedits hperm horder,
    by decide +kernel⟩

end Store

end FineTuning

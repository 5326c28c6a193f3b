import FineTuning.Proofs.Graph.TrainingPath
import FineTuning.Proofs.StoreRuns

/-!
# Training paths of stores

Validation asks at which handles edges end and at what kinds of nodes they begin. Where every edge is
well typed, the node where an edge ends settles both. What is left of the rules is counting: the
graph of a store that began empty is valid by the numbers of its training nodes and of the edges that
end at two of its nodes.

* `Graph.IsWellTyped.of_target`: an edge that ends at a node of a kind.
* `Graph.IsCounted`: the rules of a training path as far as they count.
* `Graph.IsWellTyped.isValid_topology_iff`: in a well-typed graph these are all of the rules.
* `StoreHistory.run_topology_counts`: so it is at the end of every run from a new store.
-/

namespace FineTuning

/-- A kind of edge is told by the kind of the nodes where it ends. -/
theorem EdgeKind.eq_of_target_kind {kind kind' : EdgeKind}
    (h : kind.endpointKinds.2 = kind'.endpointKinds.2) : kind = kind' := by
  cases kind with
  | datasetToModel =>
    cases kind' with
    | datasetToModel => rfl
    | modelToTraining => cases h
  | modelToTraining =>
    cases kind' with
    | datasetToModel => cases h
    | modelToTraining => rfl

namespace Graph

/-- The rules of a training path as far as they count: there is one training node, one edge ends at
it, and some edge ends where this edge begins. At which handles does not matter. -/
structure IsCounted (g : Graph) (t : Node) (e : Edge) : Prop where
  training : g.IsOnlyTraining t
  mem : e ∈ g.edges
  target : e.target = t.id
  count : g.edges.countP (·.target == t.id) = 1
  fed : ∃ f ∈ g.edges, f.target = e.source

variable {g : Graph} {e : Edge} {t m : Node} {id : String}

theorem IsOnlyTraining.kindOf? (hg : g.nodeIds.Nodup) (ht : g.IsOnlyTraining t) :
    g.kindOf? t.id = some .training :=
  (kindOf?_eq_some_iff hg).mpr ⟨t, ht.mem, rfl, ht.kind⟩

namespace IsWellTyped

variable (h : g.IsWellTyped)
include h

/-- The node where a well-typed edge ends settles its handle there and where it begins. -/
theorem of_target (kind : EdgeKind) (he : e ∈ g.edges)
    (htarget : g.kindOf? e.target = some kind.endpointKinds.2) :
    e.targetHandle = kind.handles.2.name ∧ g.kindOf? e.source = some kind.endpointKinds.1 := by
  obtain ⟨-, kind', -, hhandle, hsource, htarget'⟩ := isCompatible_iff.mp (h e he)
  rw [htarget'] at htarget
  obtain rfl := EdgeKind.eq_of_target_kind (Option.some.inj htarget)
  exact ⟨hhandle, hsource⟩

/-- Edges that end at a node end at the handle that the node has for them. -/
theorem endsAt_iff (kind : EdgeKind) (he : e ∈ g.edges)
    (hid : g.kindOf? id = some kind.endpointKinds.2) :
    e.endsAt id kind.handles.2 = true ↔ e.target = id := by
  refine ⟨Edge.target_of_endsAt, ?_⟩
  rintro rfl
  rw [Edge.endsAt, (h.of_target kind he hid).1, beq_self_eq_true, beq_self_eq_true, Bool.and_self]

/-- What leads into a training node is a model. -/
theorem source_of_endsAt_training (hg : g.nodeIds.Nodup) (ht : g.IsOnlyTraining t)
    (he : e ∈ g.edges) (htarget : e.target = t.id) : g.HasKind e.source .model := by
  have hid := ht.kindOf? hg
  rw [← htarget] at hid
  exact (kindOf?_eq_some_iff hg).mp (h.of_target .modelToTraining he hid).2

/-- What feeds a model is a dataset. -/
theorem hasKind_of_feeds (hg : g.nodeIds.Nodup) (hm : m ∈ g.nodes) (hkind : m.kind = .model)
    (hfeeds : g.Feeds m id) : g.HasKind id .dataset := by
  obtain ⟨e, he, hends, rfl⟩ := hfeeds
  have hid : g.kindOf? e.target = some .model := by
    rw [Edge.target_of_endsAt hends]
    exact (kindOf?_eq_some_iff hg).mpr ⟨m, hm, rfl, hkind⟩
  exact (kindOf?_eq_some_iff hg).mp (h.of_target .datasetToModel he hid).2

theorem countP_endsAt (hg : g.nodeIds.Nodup) (ht : g.IsOnlyTraining t) :
    g.edges.countP (·.endsAt t.id .trainingInput) = g.edges.countP (·.target == t.id) :=
  List.countP_congr fun e he => by
    rw [beq_iff_eq]
    exact h.endsAt_iff .modelToTraining he (ht.kindOf? hg)

/-- A path that is counted is a training path. -/
theorem exists_isTrainingPath (hg : g.nodeIds.Nodup) (hcounted : g.IsCounted t e) :
    ∃ m, g.IsTrainingPath t m := by
  obtain ⟨ht, he, htarget, hcount, f, hf, hfed⟩ := hcounted
  obtain ⟨m, hm, hid, hkind⟩ := h.source_of_endsAt_training hg ht he htarget
  have hends : e.endsAt t.id .trainingInput = true :=
    (h.endsAt_iff .modelToTraining he (ht.kindOf? hg)).mpr htarget
  have hmodel : g.kindOf? m.id = some .model := (kindOf?_eq_some_iff hg).mpr ⟨m, hm, rfl, hkind⟩
  have hfeeds : f.endsAt m.id .modelInput = true :=
    (h.endsAt_iff .datasetToModel hf hmodel).mpr (hfed.trans hid.symm)
  refine ⟨m, ⟨ht, ⟨?_, e, he, hends, hid.symm⟩, hm, hkind⟩, ⟨f.source, f, hf, hfeeds, rfl⟩,
    fun _ => h.hasKind_of_feeds hg hm hkind⟩
  rw [h.countP_endsAt hg ht, hcount]

/-- **In a well-typed graph, only counting is left of the rules.** -/
theorem isValid_topology_iff (hg : g.nodeIds.Nodup) :
    g.topology.isValid = true ↔ ∃ t e, g.IsCounted t e := by
  rw [Graph.isValid_topology_iff hg]
  constructor
  · rintro ⟨t, m, hpath⟩
    obtain ⟨e, he, hends, hsource⟩ := hpath.source.edge
    obtain ⟨id, f, hf, hfeeds, -⟩ := hpath.fed
    have hcount := hpath.source.count
    rw [h.countP_endsAt hg hpath.training] at hcount
    exact ⟨t, e, hpath.training, he, Edge.target_of_endsAt hends, hcount, f, hf,
      (Edge.target_of_endsAt hfeeds).trans hsource.symm⟩
  · rintro ⟨t, e, hcounted⟩
    exact ⟨t, h.exists_isTrainingPath hg hcounted⟩

/-- The errors about a well-typed graph are not about the kinds of nodes. -/
theorem not_mem_of_breaksFirst (hg : g.nodeIds.Nodup) {errors : List TopologyError}
    (hbreaks : g.BreaksFirst errors) :
    .trainingConnectedToNonModel id ∉ errors ∧ .nonDatasetConnectedToModel id ∉ errors := by
  cases hbreaks with
  | noTraining | manyTraining | unconnected | overConnected | notFed => simp
  | notModel ht hsource hkind =>
    obtain ⟨e, he, hends, rfl⟩ := hsource.edge
    exact absurd (h.source_of_endsAt_training hg ht he (Edge.target_of_endsAt hends)) hkind
  | notDatasets hm hids hlist =>
    obtain ⟨source, hmem⟩ := List.exists_mem_of_ne_nil _ hids
    obtain ⟨hfeeds, hkind⟩ := (hlist.mem_iff source).mp hmem
    exact absurd (h.hasKind_of_feeds hg hm.mem hm.kind hfeeds) hkind

theorem not_mem_topology_errors (hg : g.nodeIds.Nodup) (id : String) :
    .trainingConnectedToNonModel id ∉ g.topology.errors ∧
      .nonDatasetConnectedToModel id ∉ g.topology.errors := by
  obtain ⟨t, m, hpath⟩ | ⟨errors, hbreaks⟩ := isTrainingPath_or_breaksFirst hg
  · rw [topology_eq_valid hg hpath]
    exact ⟨List.not_mem_nil, List.not_mem_nil⟩
  · rw [(topology_eq_invalid_iff hg).mpr hbreaks]
    exact h.not_mem_of_breaksFirst hg hbreaks

end IsWellTyped

end Graph

/-- **Stores are valid by counting.** Whatever was done with a store since it was new, validation of
its graph reports no edge into the training node that begins at another node than a model, and no
edge into the model that begins at another node than a dataset. The graph is valid just when there
is one training node, one edge ends at it, and some edge ends at the node where this one begins, be
it at whatever handles. -/
theorem StoreHistory.run_topology_counts (actions : List StoreAction) :
    ∃ h, (begin .empty).run actions = .ok h ∧
      (∀ id, .trainingConnectedToNonModel id ∉ h.current.graph.topology.errors ∧
        .nonDatasetConnectedToModel id ∉ h.current.graph.topology.errors) ∧
      (h.current.graph.topology.isValid = true ↔ ∃ t e, h.current.graph.IsCounted t e) := by
  obtain ⟨h, hrun, hsince⟩ := run_isSoundSince Store.isSound_empty actions
  have htyped : h.current.graph.IsWellTyped := hsince.wellTyped Graph.isWellTyped_empty
  have hids := hsince.sound.integrity.nodup_nodeIds
  exact ⟨h, hrun, htyped.not_mem_topology_errors hids, htyped.isValid_topology_iff hids⟩

end FineTuning

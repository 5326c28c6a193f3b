import FineTuning.Graph.Topology
import FineTuning.Proofs.Except
import FineTuning.Proofs.Graph.Integrity
import Mathlib.Data.List.Sort

/-!
# Training paths

What validation is about, said without following the path: `Graph.IsTrainingPath` is a training
node and a model that keep all rules, and `Graph.BreaksFirst` is the first rule that is broken,
with the errors about it.

* `pairwise_eraseDups_findIdx`: without its repetitions, a list keeps the order of first
  occurrences.
* `trainingPath_eq_ok_iff`, `trainingPath_eq_error_iff`: the path that is followed, and the errors.
* `topology_sound_complete`: a graph is valid just when it has a training path, and the report
  says which one, or which rule is broken first.
-/

namespace FineTuning

/-! ## Lists -/

section Lists

variable {α : Type}

/-- The only element of a list, or else the error about none or about so many. -/
def exactlyOne {ε : Type} (none : ε) (many : Nat → ε) : List α → Except (List ε) α
  | [] => .error [none]
  | [x] => .ok x
  | l => .error [many l.length]

section ExactlyOne

variable {ε : Type} {none : ε} {many : Nat → ε} {p : α → Bool} {l : List α}

theorem exactlyOne_eq_ok_iff {x : α} : exactlyOne none many l = .ok x ↔ l = [x] := by
  match l with
  | [] => simp [exactlyOne]
  | [y] => simp [exactlyOne]
  | y :: z :: rest => simp [exactlyOne]

theorem exactlyOne_filter_eq_ok_iff {x : α} :
    exactlyOne none many (l.filter p) = .ok x ↔ l.countP p = 1 ∧ x ∈ l ∧ p x = true := by
  rw [List.countP_eq_length_filter, ← List.mem_filter]
  match l.filter p with
  | [] => simp [exactlyOne]
  | [y] => simp [exactlyOne, eq_comm]
  | y :: z :: rest => simp [exactlyOne]

theorem exactlyOne_filter_eq_error_iff {errors : List ε} :
    exactlyOne none many (l.filter p) = .error errors ↔
      ((∀ x ∈ l, ¬p x) ∧ errors = [none]) ∨
        (2 ≤ l.countP p ∧ errors = [many (l.countP p)]) := by
  rw [← List.filter_eq_nil_iff, List.countP_eq_length_filter]
  match l.filter p with
  | [] => simp [exactlyOne, eq_comm]
  | [y] => simp [exactlyOne]
  | y :: z :: rest => simp [exactlyOne, eq_comm]

end ExactlyOne

/-- Without its repetitions, a list keeps the order of first occurrences. -/
theorem pairwise_eraseDups_findIdx (key : α → String) (p : α → Bool) (l : List α)
    (q : String → Bool) :
    (((l.filter p).map key).filter q).eraseDups.Pairwise fun a b =>
      l.findIdx (fun x => p x && key x == a) < l.findIdx (fun x => p x && key x == b) := by
  induction l generalizing q with
  | nil => exact List.Pairwise.nil
  | cons x rest ih =>
    have hfirst : p x = true → (x :: rest).findIdx (fun y => p y && key y == key x) = 0 :=
      fun hx => by simp [List.findIdx_cons, hx]
    have hlater : ∀ a, ¬(p x = true ∧ key x = a) →
        (x :: rest).findIdx (fun y => p y && key y == a) =
          rest.findIdx (fun y => p y && key y == a) + 1 := by
      intro a ha
      have hne : (p x && key x == a) = false := by simpa using ha
      rw [List.findIdx_cons, hne, cond_false]
    -- Keys that cannot be the one of `x` are first met after `x`.
    have hrest : ∀ r : String → Bool, (∀ a, r a = true → ¬(p x = true ∧ key x = a)) →
        (((rest.filter p).map key).filter r).eraseDups.Pairwise fun a b =>
          (x :: rest).findIdx (fun y => p y && key y == a) <
            (x :: rest).findIdx (fun y => p y && key y == b) := by
      intro r hr
      refine (ih r).imp_of_mem fun {a b} ha hb hab => ?_
      rw [List.mem_eraseDups] at ha hb
      rw [hlater a (hr a (List.mem_filter.mp ha).2), hlater b (hr b (List.mem_filter.mp hb).2)]
      exact Nat.succ_lt_succ hab
    by_cases hx : p x = true
    · rw [List.filter_cons_of_pos hx, List.map_cons]
      by_cases hq : q (key x) = true
      · rw [List.filter_cons_of_pos hq, List.eraseDups_cons, List.filter_filter,
          List.pairwise_cons]
        have hne : ∀ a, (!a == key x && q a) = true → ¬(p x = true ∧ key x = a) := by
          rintro a ha ⟨-, rfl⟩
          simp at ha
        refine ⟨fun a ha => ?_, hrest _ hne⟩
        rw [List.mem_eraseDups] at ha
        rw [hfirst hx, hlater a (hne a (List.mem_filter.mp ha).2)]
        exact Nat.succ_pos _
      · rw [List.filter_cons_of_neg hq]
        refine hrest q ?_
        rintro a ha ⟨-, rfl⟩
        exact hq ha
    · rw [List.filter_cons_of_neg hx]
      exact hrest q fun a _ ha => hx ha.1

end Lists

/-- The nodes of the path are nodes of the graph. -/
structure TrainingPath.IsIn (path : TrainingPath) (g : Graph) : Prop where
  training : path.training ∈ g.nodes
  model : path.model ∈ g.nodes
  datasets : ∀ node ∈ path.datasets, node ∈ g.nodes

namespace Graph

/-! ## The rules -/

/-- Some node of the kind has the id. -/
def HasKind (g : Graph) (id : String) (kind : NodeKind) : Prop :=
  ∃ node ∈ g.nodes, node.id = id ∧ node.kind = kind

/-- There is one training node, and it is this one. -/
structure IsOnlyTraining (g : Graph) (t : Node) : Prop where
  mem : t ∈ g.nodes
  kind : t.kind = .training
  count : g.nodes.countP (·.kind == .training) = 1

/-- There is one edge into the training node, and it begins at the id. -/
structure IsOnlySource (g : Graph) (t : Node) (id : String) : Prop where
  count : g.edges.countP (·.endsAt t.id .trainingInput) = 1
  edge : ∃ e ∈ g.edges, e.endsAt t.id .trainingInput = true ∧ e.source = id

/-- The only training node has one edge into it, and this edge begins at the model. -/
structure IsTrained (g : Graph) (t m : Node) : Prop where
  training : g.IsOnlyTraining t
  source : g.IsOnlySource t m.id
  mem : m ∈ g.nodes
  kind : m.kind = .model

/-- Some edge leads into the model from the id. -/
def Feeds (g : Graph) (m : Node) (id : String) : Prop :=
  ∃ e ∈ g.edges, e.endsAt m.id .modelInput = true ∧ e.source = id

/-- The position of the first edge into the model from the id. -/
def firstFeed (g : Graph) (m : Node) (id : String) : Nat :=
  g.edges.findIdx fun e => e.endsAt m.id .modelInput && e.source == id

/-- The list of the ids from which the model is fed although they are no datasets, each one once and
in the order of the first edges from them. -/
structure ListsNonDatasets (g : Graph) (m : Node) (ids : List String) : Prop where
  mem_iff : ∀ id, id ∈ ids ↔ g.Feeds m id ∧ ¬g.HasKind id .dataset
  order : ids.Pairwise fun a b => g.firstFeed m a < g.firstFeed m b

/-- A training node and a model that keep all rules: the model is the one that is trained, and it
is fed by datasets, of which there is at least one. -/
structure IsTrainingPath (g : Graph) (t m : Node) : Prop extends g.IsTrained t m where
  fed : ∃ id, g.Feeds m id
  datasets : ∀ id, g.Feeds m id → g.HasKind id .dataset

/-- The errors about the first rule that the graph breaks. -/
inductive BreaksFirst (g : Graph) : List TopologyError → Prop
  | noTraining (hnone : ∀ node ∈ g.nodes, node.kind ≠ .training) :
    g.BreaksFirst [.noTrainingNode]
  | manyTraining (hmany : 2 ≤ g.nodes.countP (·.kind == .training)) :
    g.BreaksFirst [.multipleTrainingNodes (g.nodes.countP (·.kind == .training))]
  | unconnected {t : Node} (ht : g.IsOnlyTraining t)
    (hnone : ∀ e ∈ g.edges, ¬e.endsAt t.id .trainingInput) :
    g.BreaksFirst [.trainingNodeUnconnected t.id]
  | overConnected {t : Node} (ht : g.IsOnlyTraining t)
    (hmany : 2 ≤ g.edges.countP (·.endsAt t.id .trainingInput)) :
    g.BreaksFirst [.trainingNodeOverConnected t.id (g.edges.countP (·.endsAt t.id .trainingInput))]
  | notModel {t : Node} {id : String} (ht : g.IsOnlyTraining t) (hsource : g.IsOnlySource t id)
    (hkind : ¬g.HasKind id .model) :
    g.BreaksFirst [.trainingConnectedToNonModel id]
  | notFed {t m : Node} (hm : g.IsTrained t m) (hnone : ∀ id, ¬g.Feeds m id) :
    g.BreaksFirst [.modelHasNoDatasets m.id]
  | notDatasets {t m : Node} {ids : List String} (hm : g.IsTrained t m) (hids : ids ≠ [])
    (hlist : g.ListsNonDatasets m ids) :
    g.BreaksFirst (ids.map .nonDatasetConnectedToModel)

variable {g : Graph}

/-! ## One rule at a time -/

theorem onlyTraining_eq (g : Graph) :
    g.onlyTraining =
      exactlyOne .noTrainingNode .multipleTrainingNodes (g.nodes.filter (·.kind == .training)) := by
  unfold onlyTraining nodesOfKind
  generalize g.nodes.filter _ = nodes
  rcases nodes with _ | ⟨t, _ | ⟨t', rest⟩⟩ <;> rfl

theorem onlyModelEdge_eq (g : Graph) (id : String) :
    g.onlyModelEdge id =
      exactlyOne (.trainingNodeUnconnected id) (.trainingNodeOverConnected id)
        (g.edges.filter (·.endsAt id .trainingInput)) := by
  unfold onlyModelEdge incoming
  generalize g.edges.filter _ = edges
  rcases edges with _ | ⟨e, _ | ⟨e', rest⟩⟩ <;> rfl

theorem onlyTraining_eq_ok_iff {t : Node} : g.onlyTraining = .ok t ↔ g.IsOnlyTraining t := by
  rw [onlyTraining_eq, exactlyOne_filter_eq_ok_iff, beq_iff_eq]
  exact ⟨fun ⟨hcount, hmem, hkind⟩ => ⟨hmem, hkind, hcount⟩, fun h => ⟨h.count, h.mem, h.kind⟩⟩

/-- The only training node is all there is of its kind. -/
theorem nodesOfKind_of_onlyTraining {t : Node} (h : g.onlyTraining = .ok t) :
    g.nodesOfKind .training = [t] := by
  rw [onlyTraining_eq, exactlyOne_eq_ok_iff] at h
  exact h

/-- The only edge into the training node is all that comes in there. -/
theorem incoming_of_onlyModelEdge {id : String} {e : Edge} (h : g.onlyModelEdge id = .ok e) :
    g.incoming id .trainingInput = [e] := by
  rw [onlyModelEdge_eq, exactlyOne_eq_ok_iff] at h
  exact h

theorem of_onlyModelEdge_eq_ok {id : String} {e : Edge} (h : g.onlyModelEdge id = .ok e) :
    e ∈ g.edges ∧ e.endsAt id .trainingInput = true := by
  rw [onlyModelEdge_eq, exactlyOne_filter_eq_ok_iff] at h
  exact h.2

theorem onlyTraining_eq_error_iff {errors : List TopologyError} :
    g.onlyTraining = .error errors ↔
      ((∀ node ∈ g.nodes, node.kind ≠ .training) ∧ errors = [.noTrainingNode]) ∨
        (2 ≤ g.nodes.countP (·.kind == .training) ∧
          errors = [.multipleTrainingNodes (g.nodes.countP (·.kind == .training))]) := by
  simp only [onlyTraining_eq, exactlyOne_filter_eq_error_iff, beq_iff_eq, ne_eq]

theorem onlyModelEdge_eq_error_iff {t : Node} {errors : List TopologyError} :
    g.onlyModelEdge t.id = .error errors ↔
      ((∀ e ∈ g.edges, ¬e.endsAt t.id .trainingInput) ∧
          errors = [.trainingNodeUnconnected t.id]) ∨
        (2 ≤ g.edges.countP (·.endsAt t.id .trainingInput) ∧
          errors = [.trainingNodeOverConnected t.id
            (g.edges.countP (·.endsAt t.id .trainingInput))]) := by
  rw [onlyModelEdge_eq, exactlyOne_filter_eq_error_iff]

/-- The only edge into the training node is found, and with it where it begins. -/
theorem exists_onlyModelEdge_iff {t : Node} {id : String} :
    (∃ e, g.onlyModelEdge t.id = .ok e ∧ e.source = id) ↔ g.IsOnlySource t id := by
  simp only [onlyModelEdge_eq, exactlyOne_filter_eq_ok_iff]
  constructor
  · rintro ⟨e, ⟨hcount, hmem, hends⟩, hsource⟩
    exact ⟨hcount, e, hmem, hends, hsource⟩
  · rintro ⟨hcount, e, hmem, hends, hsource⟩
    exact ⟨e, ⟨hcount, hmem, hends⟩, hsource⟩

/-- The model where an edge begins is a node with the id that the edge names. -/
theorem of_modelAt_eq_ok {id : String} {m : Node} (h : g.modelAt id = .ok m) :
    m ∈ g.nodes ∧ m.id = id := by
  unfold modelAt at h
  split at h
  · rename_i node hnode
    cases h
    exact mem_of_node?_eq_some (Option.filter_eq_some_iff.mp hnode).1
  · cases h

theorem modelAt_eq_ok_iff (hg : g.nodeIds.Nodup) {id : String} {m : Node} :
    g.modelAt id = .ok m ↔ m ∈ g.nodes ∧ m.id = id ∧ m.kind = .model := by
  rw [← and_assoc, ← node?_eq_some_iff hg]
  unfold modelAt
  cases g.node? id with
  | none => simp
  | some node =>
    rw [Option.filter_some]
    by_cases hkind : node.kind = .model
    · rw [if_pos (beq_iff_eq.mpr hkind)]
      constructor
      · rintro ⟨⟩
        exact ⟨rfl, hkind⟩
      · rintro ⟨⟨⟩, -⟩
        rfl
    · rw [if_neg (by simpa using hkind)]
      refine iff_of_false (by simp) ?_
      rintro ⟨⟨⟩, hm⟩
      exact hkind hm

theorem modelAt_eq_error_iff (hg : g.nodeIds.Nodup) {id : String} {errors : List TopologyError} :
    g.modelAt id = .error errors ↔
      ¬g.HasKind id .model ∧ errors = [.trainingConnectedToNonModel id] := by
  unfold HasKind
  rw [← kindOf?_eq_some_iff hg]
  unfold modelAt kindOf?
  cases g.node? id with
  | none => simp [eq_comm]
  | some node =>
    rw [Option.filter_some, Option.map_some, Option.some.injEq]
    by_cases hkind : node.kind = .model
    · rw [if_pos (beq_iff_eq.mpr hkind)]
      exact iff_of_false (by simp) fun h => h.1 hkind
    · rw [if_neg (by simpa using hkind)]
      simp only [hkind, not_false_eq_true, true_and, Except.error.injEq, eq_comm]

/-- The training node and its model are found one after the other. -/
theorem isTrained_iff (hg : g.nodeIds.Nodup) {t m : Node} :
    g.IsTrained t m ↔
      g.onlyTraining = .ok t ∧ ∃ e, g.onlyModelEdge t.id = .ok e ∧ g.modelAt e.source = .ok m := by
  simp only [onlyTraining_eq_ok_iff, modelAt_eq_ok_iff hg]
  constructor
  · intro h
    obtain ⟨e, he, hid⟩ := exists_onlyModelEdge_iff.mpr h.source
    exact ⟨h.training, e, he, h.mem, hid.symm, h.kind⟩
  · rintro ⟨ht, e, he, hmem, hid, hkind⟩
    exact ⟨ht, exists_onlyModelEdge_iff.mp ⟨e, he, hid.symm⟩, hmem, hkind⟩

theorem BreaksFirst.ne_nil {errors : List TopologyError} (h : g.BreaksFirst errors) :
    errors ≠ [] := by
  cases h with
  | notDatasets _ hids _ => exact fun hnil => hids (List.map_eq_nil_iff.mp hnil)
  | _ => exact List.cons_ne_nil _ _

/-- The nodes that feed a model, in the order of the graph. -/
def feeders (g : Graph) (m : Node) : List Node :=
  g.nodes.filter (((g.incoming m.id .modelInput).map (·.source)).contains ·.id)

/-- What feeds a model and is no dataset. -/
def nonDatasets (g : Graph) (m : Node) : List String :=
  (((g.incoming m.id .modelInput).map (·.source)).filter
    (g.kindOf? · != some .dataset)).eraseDups

theorem mem_sources_iff {m : Node} {id : String} :
    id ∈ (g.incoming m.id .modelInput).map (·.source) ↔ g.Feeds m id := by
  simp only [incoming, List.mem_map, List.mem_filter, Feeds, and_assoc]

theorem mem_feeders_iff {m node : Node} :
    node ∈ g.feeders m ↔ node ∈ g.nodes ∧ g.Feeds m node.id := by
  rw [feeders, List.mem_filter, List.contains_iff_mem, mem_sources_iff]

/-- The non-datasets are listed in the order of their first edges. -/
theorem listsNonDatasets (hg : g.nodeIds.Nodup) (m : Node) :
    g.ListsNonDatasets m (g.nonDatasets m) where
  mem_iff id := by
    rw [nonDatasets, List.mem_eraseDups, List.mem_filter, mem_sources_iff, bne_iff_ne, ne_eq,
      kindOf?_eq_some_iff hg, HasKind]
  order := pairwise_eraseDups_findIdx Edge.source (·.endsAt m.id .modelInput) g.edges _

/-- There is only one such list. -/
theorem ListsNonDatasets.unique {m : Node} {ids ids' : List String}
    (h : g.ListsNonDatasets m ids) (h' : g.ListsNonDatasets m ids') : ids = ids' := by
  have : Std.Irrefl fun a b => g.firstFeed m a < g.firstFeed m b := ⟨fun _ => Nat.lt_irrefl _⟩
  have : Std.Antisymm fun a b => g.firstFeed m a < g.firstFeed m b :=
    ⟨fun _ _ hab hba => absurd hba (Nat.lt_asymm hab)⟩
  exact h.order.eq_of_mem_iff h'.order fun id => (h.mem_iff id).trans (h'.mem_iff id).symm

theorem isEmpty_sources_iff {m : Node} :
    ((g.incoming m.id .modelInput).map (·.source)).isEmpty = true ↔ ¬∃ id, g.Feeds m id := by
  rw [List.isEmpty_iff, List.eq_nil_iff_forall_not_mem, not_exists]
  exact forall_congr' fun id => not_congr mem_sources_iff

theorem isEmpty_nonDatasets_iff (hg : g.nodeIds.Nodup) {m : Node} :
    (g.nonDatasets m).isEmpty = true ↔ ∀ id, g.Feeds m id → g.HasKind id .dataset := by
  simp only [List.isEmpty_iff, List.eq_nil_iff_forall_not_mem, (listsNonDatasets hg m).mem_iff,
    not_and, not_not]

theorem datasetsOf_eq (g : Graph) (m : Node) :
    g.datasetsOf m.id =
      if ((g.incoming m.id .modelInput).map (·.source)).isEmpty then
        .error [.modelHasNoDatasets m.id]
      else if (g.nonDatasets m).isEmpty then .ok (g.feeders m)
      else .error ((g.nonDatasets m).map .nonDatasetConnectedToModel) :=
  rfl

/-- The nodes that are found to feed a model are all there are, and what feeds it is a dataset. -/
theorem of_datasetsOf_eq_ok {m : Node} {datasets : List Node}
    (h : g.datasetsOf m.id = .ok datasets) :
    g.feeders m = datasets ∧ ∀ id, g.Feeds m id → g.kindOf? id = some .dataset := by
  rw [datasetsOf_eq] at h
  split at h
  · cases h
  · split at h
    · rename_i hnone
      refine ⟨Except.ok.inj h, fun id hid => ?_⟩
      simp only [List.isEmpty_iff, nonDatasets, List.eq_nil_iff_forall_not_mem,
        List.mem_eraseDups, List.mem_filter, mem_sources_iff, bne_iff_ne, not_and,
        ne_eq, not_not] at hnone
      exact hnone id hid
    · cases h

theorem datasetsOf_eq_ok_iff (hg : g.nodeIds.Nodup) {m : Node} {datasets : List Node} :
    g.datasetsOf m.id = .ok datasets ↔
      ((∃ id, g.Feeds m id) ∧ ∀ id, g.Feeds m id → g.HasKind id .dataset) ∧
        g.feeders m = datasets := by
  rw [datasetsOf_eq, ← isEmpty_nonDatasets_iff hg, ← not_not (a := ∃ id, g.Feeds m id),
    ← isEmpty_sources_iff]
  split
  · rename_i hs
    exact iff_of_false (by simp) fun h => h.1.1 hs
  · rename_i hs
    split
    · rename_i hn
      rw [Except.ok.injEq]
      exact ⟨fun h => ⟨⟨hs, hn⟩, h⟩, fun h => h.2⟩
    · rename_i hn
      exact iff_of_false (by simp) fun h => hn h.1.2

theorem datasetsOf_eq_error_iff (hg : g.nodeIds.Nodup) {m : Node} {errors : List TopologyError} :
    g.datasetsOf m.id = .error errors ↔
      ((∀ id, ¬g.Feeds m id) ∧ errors = [.modelHasNoDatasets m.id]) ∨
        ∃ ids, ids ≠ [] ∧ g.ListsNonDatasets m ids ∧
          errors = ids.map .nonDatasetConnectedToModel := by
  have hlist := listsNonDatasets hg m
  rw [datasetsOf_eq, ← not_exists, ← isEmpty_sources_iff]
  split
  · rename_i hs
    have hnone := isEmpty_sources_iff.mp hs
    rw [Except.error.injEq]
    refine ⟨fun h => .inl ⟨hs, h.symm⟩, ?_⟩
    rintro (⟨-, rfl⟩ | ⟨ids, hids, h, -⟩)
    · rfl
    · obtain ⟨id, hid⟩ := List.exists_mem_of_ne_nil ids hids
      exact absurd ⟨id, ((h.mem_iff id).mp hid).1⟩ hnone
  · rename_i hs
    split
    · rename_i hn
      refine iff_of_false (by simp) ?_
      rintro (⟨hs', -⟩ | ⟨ids, hids, h, -⟩)
      · exact hs hs'
      · rw [h.unique hlist] at hids
        exact hids (List.isEmpty_iff.mp hn)
    · rename_i hn
      rw [Except.error.injEq]
      constructor
      · exact fun h => .inr ⟨_, fun hnil => hn (List.isEmpty_iff.mpr hnil), hlist, h.symm⟩
      · rintro (⟨hs', -⟩ | ⟨ids, -, h, rfl⟩)
        · exact absurd hs' hs
        · rw [h.unique hlist]

/-! ## The whole path -/

/-- A path is followed from its training node over its model to its datasets. -/
theorem trainingPath_eq_ok_iff_followed {path : TrainingPath} :
    g.trainingPath = .ok path ↔
      g.onlyTraining = .ok path.training ∧ ∃ e, g.onlyModelEdge path.training.id = .ok e ∧
        g.modelAt e.source = .ok path.model ∧ g.datasetsOf path.model.id = .ok path.datasets := by
  obtain ⟨t, m, datasets⟩ := path
  simp only [trainingPath, bind_eq_ok_iff, pure, Except.pure, Except.ok.injEq,
    TrainingPath.mk.injEq]
  constructor
  · rintro ⟨t', ht, e, he, m', hm, datasets', hdatasets, rfl, rfl, rfl⟩
    exact ⟨ht, e, he, hm, hdatasets⟩
  · rintro ⟨ht, e, he, hm, hdatasets⟩
    exact ⟨t, ht, e, he, m, hm, datasets, hdatasets, rfl, rfl, rfl⟩

/-- Every path that is followed leads through nodes of the graph. -/
theorem isIn_of_trainingPath_eq_ok {path : TrainingPath} (h : g.trainingPath = .ok path) :
    path.IsIn g := by
  obtain ⟨ht, e, -, hm, hdatasets⟩ := trainingPath_eq_ok_iff_followed.mp h
  refine ⟨(onlyTraining_eq_ok_iff.mp ht).mem, (of_modelAt_eq_ok hm).1, fun node hnode => ?_⟩
  rw [← (of_datasetsOf_eq_ok hdatasets).1] at hnode
  exact (mem_feeders_iff.mp hnode).1

/-- The path that is followed keeps all rules, and a path that keeps them is followed. -/
theorem trainingPath_eq_ok_iff (hg : g.nodeIds.Nodup) {path : TrainingPath} :
    g.trainingPath = .ok path ↔
      g.IsTrainingPath path.training path.model ∧ g.feeders path.model = path.datasets := by
  simp only [trainingPath_eq_ok_iff_followed, datasetsOf_eq_ok_iff hg]
  constructor
  · rintro ⟨ht, e, he, hm, ⟨hfed, hall⟩, hds⟩
    exact ⟨⟨(isTrained_iff hg).mpr ⟨ht, e, he, hm⟩, hfed, hall⟩, hds⟩
  · rintro ⟨h, hds⟩
    obtain ⟨ht, e, he, hm⟩ := (isTrained_iff hg).mp h.toIsTrained
    exact ⟨ht, e, he, hm, ⟨h.fed, h.datasets⟩, hds⟩

/-- The errors are those about the first rule that is broken. -/
theorem trainingPath_eq_error_iff (hg : g.nodeIds.Nodup) {errors : List TopologyError} :
    g.trainingPath = .error errors ↔ g.BreaksFirst errors := by
  simp only [trainingPath, bind_eq_error_iff]
  constructor
  · rintro (h | ⟨t, ht, h | ⟨e, he, h | ⟨m, hm, h | ⟨datasets, -, h⟩⟩⟩⟩)
    · obtain ⟨hnone, rfl⟩ | ⟨hmany, rfl⟩ := onlyTraining_eq_error_iff.mp h
      · exact .noTraining hnone
      · exact .manyTraining hmany
    · obtain ⟨hnone, rfl⟩ | ⟨hmany, rfl⟩ := onlyModelEdge_eq_error_iff.mp h
      · exact .unconnected (onlyTraining_eq_ok_iff.mp ht) hnone
      · exact .overConnected (onlyTraining_eq_ok_iff.mp ht) hmany
    · obtain ⟨hkind, rfl⟩ := (modelAt_eq_error_iff hg).mp h
      exact .notModel (onlyTraining_eq_ok_iff.mp ht)
        (exists_onlyModelEdge_iff.mp ⟨e, he, rfl⟩) hkind
    · have htrained := (isTrained_iff hg).mpr ⟨ht, e, he, hm⟩
      obtain ⟨hnone, rfl⟩ | ⟨ids, hids, hlist, rfl⟩ := (datasetsOf_eq_error_iff hg).mp h
      · exact .notFed htrained hnone
      · exact .notDatasets htrained hids hlist
    · cases h
  · -- Each fault is found by its own check, and all checks before it pass.
    intro h
    cases h with
    | noTraining hnone => exact .inl (onlyTraining_eq_error_iff.mpr (.inl ⟨hnone, rfl⟩))
    | manyTraining hmany => exact .inl (onlyTraining_eq_error_iff.mpr (.inr ⟨hmany, rfl⟩))
    | unconnected ht hnone =>
      exact .inr ⟨_, onlyTraining_eq_ok_iff.mpr ht,
        .inl (onlyModelEdge_eq_error_iff.mpr (.inl ⟨hnone, rfl⟩))⟩
    | overConnected ht hmany =>
      exact .inr ⟨_, onlyTraining_eq_ok_iff.mpr ht,
        .inl (onlyModelEdge_eq_error_iff.mpr (.inr ⟨hmany, rfl⟩))⟩
    | notModel ht hsource hkind =>
      obtain ⟨e, he, rfl⟩ := exists_onlyModelEdge_iff.mpr hsource
      exact .inr ⟨_, onlyTraining_eq_ok_iff.mpr ht, .inr ⟨e, he,
        .inl ((modelAt_eq_error_iff hg).mpr ⟨hkind, rfl⟩)⟩⟩
    | notFed htrained hnone =>
      obtain ⟨ht, e, he, hm⟩ := (isTrained_iff hg).mp htrained
      exact .inr ⟨_, ht, .inr ⟨e, he, .inr ⟨_, hm,
        .inl ((datasetsOf_eq_error_iff hg).mpr (.inl ⟨hnone, rfl⟩))⟩⟩⟩
    | notDatasets htrained hids hlist =>
      obtain ⟨ht, e, he, hm⟩ := (isTrained_iff hg).mp htrained
      exact .inr ⟨_, ht, .inr ⟨e, he, .inr ⟨_, hm,
        .inl ((datasetsOf_eq_error_iff hg).mpr (.inr ⟨_, hids, hlist, rfl⟩))⟩⟩⟩

/-! ## The report -/

/-- The report of a path that is followed. -/
theorem topology_of_trainingPath {path : TrainingPath} (h : g.trainingPath = .ok path) :
    g.topology = .valid path := by
  rw [topology, h]

/-- A valid report is that of a path. -/
theorem exists_trainingPath_of_isValid (h : g.topology.isValid = true) :
    ∃ path, g.trainingPath = .ok path := by
  unfold topology at h
  split at h
  · rename_i path hpath
    exact ⟨path, hpath⟩
  · cases h

/-- The report of a graph with a training path. -/
theorem topology_eq_valid (hg : g.nodeIds.Nodup) {t m : Node} (h : g.IsTrainingPath t m) :
    g.topology = ⟨true, [], some t.id, some m.id, (g.feeders m).map (·.id)⟩ := by
  have hpath : g.trainingPath = .ok ⟨t, m, g.feeders m⟩ := (trainingPath_eq_ok_iff hg).mpr ⟨h, rfl⟩
  rw [topology_of_trainingPath hpath, TopologyReport.valid]

/-- The report of a graph that breaks a rule. -/
theorem topology_eq_invalid_iff (hg : g.nodeIds.Nodup) {errors : List TopologyError} :
    g.topology = ⟨false, errors, none, none, []⟩ ↔ g.BreaksFirst errors := by
  rw [← trainingPath_eq_error_iff hg]
  unfold topology
  cases g.trainingPath with
  | ok path => simp [TopologyReport.valid]
  | error errors' => simp [TopologyReport.invalid]

/-- A graph has a training path, or else it breaks some rule first. -/
theorem isTrainingPath_or_breaksFirst (hg : g.nodeIds.Nodup) :
    (∃ t m, g.IsTrainingPath t m) ∨ ∃ errors, g.BreaksFirst errors := by
  cases h : g.trainingPath with
  | ok path => exact .inl ⟨_, _, ((trainingPath_eq_ok_iff hg).mp h).1⟩
  | error errors => exact .inr ⟨errors, (trainingPath_eq_error_iff hg).mp h⟩

theorem isValid_topology_iff (hg : g.nodeIds.Nodup) :
    g.topology.isValid = true ↔ ∃ t m, g.IsTrainingPath t m := by
  constructor
  · intro h
    obtain hpath | ⟨errors, hbreaks⟩ := isTrainingPath_or_breaksFirst hg
    · exact hpath
    · rw [(topology_eq_invalid_iff hg).mpr hbreaks] at h
      cases h
  · rintro ⟨t, m, h⟩
    rw [topology_eq_valid hg h]

/-- What the report says about the datasets of a path: without repetitions and in the order of the
graph, the ids of the nodes that feed the model. -/
theorem feeders_ids (hg : g.nodeIds.Nodup) {t m : Node} (h : g.IsTrainingPath t m) :
    ((g.feeders m).map (·.id)).Sublist g.nodeIds ∧ ((g.feeders m).map (·.id)).Nodup ∧
      ∀ id, id ∈ (g.feeders m).map (·.id) ↔ g.Feeds m id := by
  have hsub : ((g.feeders m).map (·.id)).Sublist g.nodeIds := List.filter_sublist.map _
  refine ⟨hsub, hg.sublist hsub, fun id => ?_⟩
  simp only [List.mem_map, mem_feeders_iff]
  constructor
  · rintro ⟨node, ⟨-, hfeeds⟩, rfl⟩
    exact hfeeds
  · intro hfeeds
    obtain ⟨node, hnode, rfl, -⟩ := h.datasets id hfeeds
    exact ⟨node, ⟨hnode, hfeeds⟩, rfl⟩

/-- **Validation is sound and complete.** A graph is valid just when it has a training path. The
report then names the training node and the model of the path, and the ids of the nodes that feed
the model, without repetitions and in the order of the graph. Otherwise it names no node, and its
errors are those about the first rule that is broken. -/
theorem topology_sound_complete (g : Graph) (hg : g.nodeIds.Nodup) :
    (g.topology.isValid = true ↔ ∃ t m, g.IsTrainingPath t m) ∧
      (∀ t m, g.IsTrainingPath t m → ∃ datasets,
        g.topology = ⟨true, [], some t.id, some m.id, datasets⟩ ∧
          datasets.Sublist g.nodeIds ∧ datasets.Nodup ∧ ∀ id, id ∈ datasets ↔ g.Feeds m id) ∧
      ((∃ t m, g.IsTrainingPath t m) ∨ ∃ errors, g.BreaksFirst errors) ∧
      ∀ errors, g.BreaksFirst errors ↔ g.topology = ⟨false, errors, none, none, []⟩ :=
  ⟨isValid_topology_iff hg, fun _ _ h => ⟨_, topology_eq_valid hg h, feeders_ids hg h⟩,
    isTrainingPath_or_breaksFirst hg, fun _ => (topology_eq_invalid_iff hg).symm⟩

/-- A path with one dataset, and what is wrong when the model feeds itself as well, by two edges. -/
theorem topology_sound_complete_line :
    let nodes : List Node := [⟨"t", .origin, 1, .initial .training⟩,
      ⟨"m", .origin, 2, .initial .model⟩, ⟨"d", .origin, 3, .initial .dataset⟩]
    let line : List Edge := [⟨"e", "m", "t", "model-output", "training-input"⟩,
      ⟨"f", "d", "m", "dataset-output", "model-input"⟩]
    let loop : Edge := ⟨"g", "m", "m", "model-output", "model-input"⟩
    (Graph.mk nodes line).nodeIds.Nodup ∧ (∃ t m, (Graph.mk nodes line).IsTrainingPath t m) ∧
      (Graph.mk nodes (loop :: loop :: line)).BreaksFirst [.nonDatasetConnectedToModel "m"] := by
  intro nodes line loop
  have hnodup : ∀ edges, (Graph.mk nodes edges).nodeIds.Nodup := fun _ => by
    show (nodes.map (·.id)).Nodup
    decide
  exact ⟨hnodup line, (topology_sound_complete _ (hnodup line)).1.mp (by decide),
    ((topology_sound_complete _ (hnodup _)).2.2.2 _).mpr (by decide)⟩

end Graph

end FineTuning

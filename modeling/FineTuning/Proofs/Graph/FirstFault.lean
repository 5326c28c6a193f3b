import FineTuning.Proofs.Graph.Integrity

/-!
# The first fault of a graph

The check of integrity goes through the nodes once, and then through the edges. What it has seen of
the nodes is the part of the list before the one it looks at; so it names the first node with an
id that stands before it, and where there is none the first edge with an end that is no node.

* `firstRepeated?_eq_some_iff`, `Graph.firstDangling?_eq_some_iff`: what the two searches find.
* `Graph.checkIntegrity_exact`: the check accepts the graphs that have integrity, and of the others
  it names the first fault.
-/

namespace FineTuning

/-- The search ends at the first text that was seen before it began or stands before it. -/
theorem firstRepeated?_eq_some_iff {seen ids : List String} {id : String} :
    firstRepeated? seen ids = some id ↔
      ∃ before after, ids = before ++ id :: after ∧ (id ∈ seen ∨ id ∈ before) ∧
        before.Nodup ∧ ∀ x ∈ before, x ∉ seen := by
  induction ids generalizing seen with
  | nil => simp [firstRepeated?]
  | cons x rest ih =>
    simp only [firstRepeated?, List.contains_iff_mem]
    by_cases hx : x ∈ seen
    · rw [if_pos hx, Option.some.injEq]
      constructor
      · rintro rfl
        exact ⟨[], rest, rfl, .inl hx, List.nodup_nil, List.forall_mem_nil _⟩
      · rintro ⟨_ | ⟨y, before⟩, after, hsplit, -, -, hfresh⟩
        · exact (List.cons.inj hsplit).1
        · obtain ⟨rfl, -⟩ := List.cons.inj hsplit
          exact absurd hx (hfresh x List.mem_cons_self)
    · -- From here on `x` is one of the texts that were seen.
      rw [if_neg hx, ih]
      constructor
      · rintro ⟨before, after, rfl, hrepeated, hnodup, hfresh⟩
        refine ⟨x :: before, after, rfl, ?_, ?_, ?_⟩
        · simp only [List.mem_cons] at hrepeated ⊢
          tauto
        · exact List.nodup_cons.mpr ⟨fun h => hfresh x h List.mem_cons_self, hnodup⟩
        · exact List.forall_mem_cons.mpr
            ⟨hx, fun y hy h => hfresh y hy (List.mem_cons_of_mem _ h)⟩
      · rintro ⟨_ | ⟨y, before⟩, after, hsplit, hrepeated, hnodup, hfresh⟩
        · obtain ⟨rfl, -⟩ := List.cons.inj hsplit
          exact absurd hrepeated (by simp [hx])
        · obtain ⟨rfl, rfl⟩ := List.cons.inj hsplit
          obtain ⟨hnew, hnodup⟩ := List.nodup_cons.mp hnodup
          refine ⟨before, after, rfl, ?_, hnodup, fun y hy h => ?_⟩
          · simp only [List.mem_cons] at hrepeated ⊢
            tauto
          · obtain rfl | hseen := List.mem_cons.mp h
            · exact hnew hy
            · exact hfresh y (List.mem_cons_of_mem _ hy) hseen

namespace Graph

variable {g : Graph}

/-! ## Repeated ids -/

/-- The node is the first one that has the id of a node before it. -/
def IsFirstRepeat (g : Graph) (node : Node) : Prop :=
  ∃ before after, g.nodes = before ++ node :: after ∧
    node.id ∈ before.map (·.id) ∧ (before.map (·.id)).Nodup

/-- What is repeated in the list of the ids is the id of the first node that repeats one. -/
theorem firstRepeated?_nodeIds_eq_some_iff {id : String} :
    firstRepeated? [] g.nodeIds = some id ↔ ∃ node, g.IsFirstRepeat node ∧ node.id = id := by
  rw [firstRepeated?_eq_some_iff]
  constructor
  · rintro ⟨ids, later, hsplit, hrepeated, hnodup, -⟩
    obtain ⟨before, nodes, hnodes, rfl, hrest⟩ := List.map_eq_append_iff.mp hsplit
    obtain ⟨node, after, rfl, rfl, -⟩ := List.map_eq_cons_iff.mp hrest
    exact ⟨node, ⟨before, after, hnodes, hrepeated.resolve_left nofun, hnodup⟩, rfl⟩
  · rintro ⟨node, ⟨before, after, hnodes, hrepeated, hnodup⟩, rfl⟩
    refine ⟨before.map (·.id), after.map (·.id), ?_, .inr hrepeated, hnodup, fun _ _ => nofun⟩
    rw [nodeIds, hnodes, List.map_append, List.map_cons]

/-! ## Missing ends -/

/-- Both ends of the edge are nodes. -/
def HasEnds (g : Graph) (edge : Edge) : Prop :=
  edge.source ∈ g.nodeIds ∧ edge.target ∈ g.nodeIds

instance (g : Graph) (edge : Edge) : Decidable (g.HasEnds edge) :=
  inferInstanceAs (Decidable (_ ∧ _))

/-- The edge is the first one with an end that is no node. -/
def IsFirstDangling (g : Graph) (edge : Edge) : Prop :=
  ∃ before after, g.edges = before ++ edge :: after ∧
    ¬g.HasEnds edge ∧ ∀ earlier ∈ before, g.HasEnds earlier

/-- The end that is named: the source if it is no node, and the target if only that is none. -/
def namedEnd (g : Graph) (edge : Edge) : String :=
  if edge.source ∈ g.nodeIds then edge.target else edge.source

theorem missingEnd?_eq_some_iff {edge : Edge} {missing : String} :
    missingEnd? g.nodeIds edge = some missing ↔ ¬g.HasEnds edge ∧ missing = g.namedEnd edge := by
  unfold missingEnd? namedEnd HasEnds
  by_cases hsource : edge.source ∈ g.nodeIds
  · by_cases htarget : edge.target ∈ g.nodeIds
    · simp [hsource, htarget]
    · simp [hsource, htarget, eq_comm]
  · simp [hsource, eq_comm]

theorem firstDangling?_eq_some_iff {fault : IntegrityError} :
    firstDangling? g.nodeIds g.edges = some fault ↔
      ∃ edge, g.IsFirstDangling edge ∧ fault = .danglingEdge edge.id (g.namedEnd edge) := by
  simp only [firstDangling?, List.findSome?_eq_some_iff, Option.map_eq_some_iff,
    Option.map_eq_none_iff, missingEnd?_eq_some_iff, missingEnd?_eq_none_iff]
  constructor
  · rintro ⟨before, edge, after, hedges, ⟨missing, ⟨hends, rfl⟩, rfl⟩, hbefore⟩
    exact ⟨edge, ⟨before, after, hedges, hends, hbefore⟩, rfl⟩
  · rintro ⟨edge, ⟨before, after, hedges, hends, hbefore⟩, rfl⟩
    exact ⟨before, edge, after, hedges, ⟨_, ⟨hends, rfl⟩, rfl⟩, hbefore⟩

/-! ## The check -/

theorem checkIntegrity_eq_error_iff {fault : IntegrityError} :
    g.checkIntegrity = .error fault ↔ g.integrityFault? = some fault := by
  unfold checkIntegrity
  cases g.integrityFault? <;> simp

/-- A graph with a repeated id is refused for the first node that repeats one. -/
theorem checkIntegrity_of_repeated (h : ¬g.nodeIds.Nodup) :
    ∃ node, g.IsFirstRepeat node ∧ g.checkIntegrity = .error (.duplicateNodeId node.id) := by
  cases hfound : firstRepeated? [] g.nodeIds with
  | none => exact absurd ((firstRepeated?_eq_none_iff [] g.nodeIds).mp hfound).1 h
  | some id =>
    obtain ⟨node, hnode, rfl⟩ := firstRepeated?_nodeIds_eq_some_iff.mp hfound
    refine ⟨node, hnode, checkIntegrity_eq_error_iff.mpr ?_⟩
    rw [integrityFault?, hfound]

/-- A graph with distinct ids and a missing end is refused for the first edge with one. -/
theorem checkIntegrity_of_dangling (hnodup : g.nodeIds.Nodup)
    (h : ¬∀ edge ∈ g.edges, g.HasEnds edge) :
    ∃ edge, g.IsFirstDangling edge ∧
      g.checkIntegrity = .error (.danglingEdge edge.id (g.namedEnd edge)) := by
  have hnone : firstRepeated? [] g.nodeIds = none :=
    (firstRepeated?_eq_none_iff [] g.nodeIds).mpr ⟨hnodup, fun _ _ => nofun⟩
  cases hfound : firstDangling? g.nodeIds g.edges with
  | none => exact absurd ((firstDangling?_eq_none_iff g.nodeIds g.edges).mp hfound) h
  | some fault =>
    obtain ⟨edge, hedge, rfl⟩ := firstDangling?_eq_some_iff.mp hfound
    refine ⟨edge, hedge, checkIntegrity_eq_error_iff.mpr ?_⟩
    rw [integrityFault?, hnone, hfound]

/-- **The check is exact and names the first fault.** A graph passes just when it has integrity.
Otherwise the fault is the first node with the id of an earlier one, or, if there is none, the
first edge with an end that is no node, its source before its target. -/
theorem checkIntegrity_exact (g : Graph) :
    (g.checkIntegrity = .ok () ↔ g.nodeIds.Nodup ∧ ∀ edge ∈ g.edges, g.HasEnds edge) ∧
      (¬g.nodeIds.Nodup →
        ∃ node, g.IsFirstRepeat node ∧ g.checkIntegrity = .error (.duplicateNodeId node.id)) ∧
      (g.nodeIds.Nodup → (¬∀ edge ∈ g.edges, g.HasEnds edge) →
        ∃ edge, g.IsFirstDangling edge ∧ g.checkIntegrity = .error (.danglingEdge edge.id
          (if edge.source ∈ g.nodeIds then edge.target else edge.source))) := by
  refine ⟨?_, checkIntegrity_of_repeated, checkIntegrity_of_dangling⟩
  rw [checkIntegrity_eq_ok_iff]
  constructor
  · exact fun h => ⟨h.nodup_nodeIds, fun edge he => ⟨h.source_mem edge he, h.target_mem edge he⟩⟩
  · exact fun ⟨hnodup, hends⟩ => ⟨hnodup, fun e he => (hends e he).1, fun e he => (hends e he).2⟩

/-- A graph with two repeated ids, and one with distinct ids and three dangling edges. -/
theorem checkIntegrity_exact_faults :
    let node : String → Node := fun id => ⟨id, .origin, 0, .initial .dataset⟩
    let edge : String → String → String → Edge := fun id source target =>
      ⟨id, source, target, "dataset-output", "model-input"⟩
    let repeated : Graph := ⟨[node "a", node "b", node "b", node "a"], [edge "e" "a" "x"]⟩
    let dangling : Graph :=
      ⟨[node "a", node "b"], [edge "ok" "a" "b", edge "first" "b" "x", edge "second" "y" "z"]⟩
    (∃ found, repeated.IsFirstRepeat found ∧ found.id = "b") ∧
      (∃ found, dangling.IsFirstDangling found ∧ found.id = "first") ∧
      repeated.checkIntegrity = .error (.duplicateNodeId "b") ∧
      dangling.checkIntegrity = .error (.danglingEdge "first" "x") := by
  intro node edge repeated dangling
  have hrepeated : repeated.checkIntegrity = .error (.duplicateNodeId "b") := by decide
  have hdangling : dangling.checkIntegrity = .error (.danglingEdge "first" "x") := by decide
  obtain ⟨-, hnodes, -⟩ := checkIntegrity_exact repeated
  obtain ⟨found, hfirst, hfound⟩ := hnodes (by decide)
  obtain ⟨-, -, hedges⟩ := checkIntegrity_exact dangling
  obtain ⟨found', hfirst', hfound'⟩ := hedges (by decide) (by decide)
  refine ⟨⟨found, hfirst, ?_⟩, ⟨found', hfirst', ?_⟩, hrepeated, hdangling⟩
  · have hsame := Except.error.inj (hfound.symm.trans hrepeated)
    exact IntegrityError.duplicateNodeId.inj hsame
  · have hsame := Except.error.inj (hfound'.symm.trans hdangling)
    exact (IntegrityError.danglingEdge.inj hsame).1

end Graph

end FineTuning

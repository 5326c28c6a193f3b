import FineTuning.Graph.Store
import FineTuning.Proofs.Graph.Integrity
import FineTuning.Proofs.Text.Numeral
import Mathlib.Data.List.Perm.Subperm

/-!
# Fresh ids

The searches for a free number look at one number more than there are nodes or edges. The ids of
different numbers are different, so by counting one of these numbers is free.

* `exists_free_number`: among so many numbers one has an id that is not taken.
* `nextNumber_free`: a new node gets an id that no node has.
* `nextEdgeId_free`: a new edge gets an id that no edge has.
-/

namespace FineTuning

/-! ## The search -/

section Search

variable (isFree : Nat → Bool) {tries n k : Nat}

theorem le_firstFree (tries n : Nat) : n ≤ firstFree isFree tries n := by
  induction tries generalizing n with
  | zero => exact Nat.le_refl n
  | succ tries ih =>
    unfold firstFree
    split
    · exact Nat.le_refl n
    · exact Nat.le_of_succ_le (ih (n + 1))

/-- The search finds a free number if there is one where it looks. -/
theorem isFree_firstFree (hn : n ≤ k) (hk : k ≤ n + tries) (hfree : isFree k = true) :
    isFree (firstFree isFree tries n) = true := by
  induction tries generalizing n with
  | zero =>
    obtain rfl : k = n := by omega
    exact hfree
  | succ tries ih =>
    unfold firstFree
    split
    · assumption
    · rename_i h
      have hne : n ≠ k := fun e => h (e ▸ hfree)
      exact ih (by omega) (by omega)

end Search

/-- **Counting.** Where different numbers from `n` on have different texts, one of the first
numbers, one more than there are texts in the list, has a text that is not in the list. -/
theorem exists_free_number {text : Nat → String} {n : Nat}
    (htext : ∀ a b, n ≤ a → n ≤ b → text a = text b → a = b) (taken : List String) :
    ∃ k, n ≤ k ∧ k ≤ n + taken.length ∧ text k ∉ taken := by
  by_contra hnone
  have htaken : ∀ k, n ≤ k → k ≤ n + taken.length → text k ∈ taken := fun k hn hk =>
    Classical.byContradiction fun h => hnone ⟨k, hn, hk, h⟩
  let texts := (List.range (taken.length + 1)).map fun i => text (n + i)
  have hnodup : texts.Nodup := by
    refine List.Nodup.map (fun a b hab => ?_) List.nodup_range
    have := htext _ _ (Nat.le_add_right n a) (Nat.le_add_right n b) hab
    omega
  have hsub : texts ⊆ taken := by
    intro x hx
    obtain ⟨i, hi, rfl⟩ := List.mem_map.mp hx
    rw [List.mem_range] at hi
    exact htaken _ (Nat.le_add_right n i) (by omega)
  have hlen := (hnodup.subperm hsub).length_le
  simp only [texts, List.length_map, List.length_range] at hlen
  omega

/-! ## Ids of nodes -/

/-- The ids of a kind of node are told apart by their numbers. -/
theorem NodeKind.nodeId_injective (kind : NodeKind) {a b : Nat}
    (h : kind.nodeId a = kind.nodeId b) : a = b := by
  simp only [nodeId, toString] at h
  exact Text.Numeral.repr_inj ((String.append_right_inj _).mp h)

namespace Store

theorem nextNode_le_nextNumber (s : Store) (kind : NodeKind) : s.nextNode ≤ s.nextNumber kind :=
  le_firstFree _ _ _

/-- A new node gets an id that no node has. -/
theorem nextNumber_free (s : Store) (kind : NodeKind) :
    kind.nodeId (s.nextNumber kind) ∉ s.graph.nodeIds := by
  obtain ⟨k, hn, hk, hfree⟩ := exists_free_number
    (fun a b _ _ (h : kind.nodeId a = kind.nodeId b) => kind.nodeId_injective h) s.graph.nodeIds
    (n := s.nextNode)
  have h := isFree_firstFree (fun n => !s.graph.hasNode (kind.nodeId n)) hn
    (by simpa [Graph.nodeIds] using hk) (by simpa [← Graph.hasNode_iff] using hfree)
  simpa [← Graph.hasNode_iff, nextNumber] using h

end Store

/-! ## Ids of edges -/

namespace Edge

variable {source target : String} {a b : Nat}

theorem idBetween_of_gt (h : 1 < a) :
    idBetween source target a = idBetween source target 1 ++ ("-" ++ a.repr) := by
  simp only [idBetween, Nat.not_le.mpr h, Nat.le_refl, ↓reduceIte, toString, String.append_assoc]

/-- The first edge between two nodes has an id that no numbered one has. -/
theorem idBetween_one_ne (h : 1 < a) : idBetween source target 1 ≠ idBetween source target a := by
  intro heq
  have hlen := congrArg String.length heq
  rw [idBetween_of_gt h] at hlen
  simp only [String.length_append, show "-".length = 1 from rfl] at hlen
  omega

/-- The ids of edges between two nodes are told apart by their numbers. -/
theorem idBetween_injective (ha : 1 ≤ a) (hb : 1 ≤ b)
    (h : idBetween source target a = idBetween source target b) : a = b := by
  rcases Nat.lt_or_eq_of_le ha with ha | rfl
  · rcases Nat.lt_or_eq_of_le hb with hb | rfl
    · rw [idBetween_of_gt ha, idBetween_of_gt hb, String.append_right_inj,
        String.append_right_inj] at h
      exact Text.Numeral.repr_inj h
    · exact absurd h.symm (idBetween_one_ne ha)
  · rcases Nat.lt_or_eq_of_le hb with hb | rfl
    · exact absurd h (idBetween_one_ne hb)
    · rfl

end Edge

namespace Store

/-- A new edge gets an id that no edge has. -/
theorem nextEdgeId_free (s : Store) (source target : String) :
    ∀ e ∈ s.graph.edges, e.id ≠ s.nextEdgeId source target := by
  obtain ⟨k, hn, hk, hfree⟩ := exists_free_number (n := 1)
    (fun a b ha hb (h : Edge.idBetween source target a = _) => Edge.idBetween_injective ha hb h)
    (s.graph.edges.map (·.id))
  have h := isFree_firstFree
    (fun n => (s.graph.edge? (Edge.idBetween source target n)).isNone) hn
    (by simpa using hk) (by simpa [Graph.edge?] using hfree)
  simpa [Graph.edge?, nextEdgeId] using h

end Store

end FineTuning

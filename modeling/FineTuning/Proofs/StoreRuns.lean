import FineTuning.Proofs.Assistant.Turns

/-!
# Runs of a store

A run begins with a store, new or loaded, and goes through any actions in any order: edits, calls
and turns of assistants, going back to an earlier store, and reloading the graph. Snapshots may be
taken at any time, so the run remembers all stores that it went through.

* `Store.restore_snapshot`: going back to a snapshot undoes whatever was done since.
* `StoreHistory.run_keeps`: what every action of a run keeps holds of its stores.
* `StoreHistory.run_isSound`: every run can be carried out, and its stores are sound. If no edge
  was amiss at the start, none is at the end.
-/

namespace FineTuning

/-- **Going back to a snapshot** gives the store that it was taken of, whatever was done since. -/
theorem Store.restore_snapshot (s later : Store) : later.restore s.snapshot = s := rfl

/-- Something that is done with a store. -/
inductive StoreAction where
  | edit (edit : StoreEdit)
  | call (engine : Engine) (created : List String) (call : ToolCall)
  | turn (engine : Engine) (created : List String) (calls : List ToolCall)
  | atomicTurn (engine : Engine) (created : List String) (calls : List ToolCall)
  /-- Goes back to the snapshot of the store before the last action, or before so many actions
  more. -/
  | restore (further : Nat)
  /-- Makes a new store of the graph. -/
  | reload

/-- The store of a run, and those before it, the latest one first. -/
structure StoreHistory where
  current : Store
  earlier : List Store
deriving DecidableEq

namespace StoreHistory

/-- The beginning of a run. -/
def begin (start : Store) : StoreHistory := ⟨start, []⟩

/-- The store after an action. Only a reload could fail. -/
def next (h : StoreHistory) : StoreAction → Except IntegrityError Store
  | .edit edit => .ok (h.current.edit edit)
  | .call engine created call => .ok (engine.executeCall ⟨h.current, created⟩ call).2.editor
  | .turn engine created calls => .ok (engine.runTurn ⟨h.current, created⟩ calls).2
  | .atomicTurn engine created calls => .ok (engine.runTurnAtomic ⟨h.current, created⟩ calls).2
  | .restore further =>
    match h.earlier[further]? with
    | some store => .ok (h.current.restore store.snapshot)
    | none => .ok h.current
  | .reload => Store.ofGraph h.current.graph

/-- Goes through actions in order. -/
def run (h : StoreHistory) : List StoreAction → Except IntegrityError StoreHistory
  | [] => .ok h
  | action :: rest => do
    let store ← h.next action
    run ⟨store, h.current :: h.earlier⟩ rest

/-! ## Invariants -/

section Invariants

variable {P : Store → Prop}

/-- What an action has to keep for a run to keep it. -/
def Keeps (P : Store → Prop) : StoreAction → Prop
  | .edit edit => ∀ s : Store, P s → P (s.edit edit)
  | .call engine _ _ | .turn engine _ _ | .atomicTurn engine _ _ =>
    ∀ (c : Conversation Store) (call : ToolCall), P c.editor →
      P (engine.executeCall c call).2.editor
  | .restore _ => True
  | .reload => ∀ s : Store, P s → ∃ s', Store.ofGraph s.graph = .ok s' ∧ P s'

theorem next_keeps {h : StoreHistory} (hcurrent : P h.current) (hearlier : ∀ s ∈ h.earlier, P s)
    {action : StoreAction} (haction : Keeps P action) : ∃ s, h.next action = .ok s ∧ P s := by
  cases action with
  | edit edit => exact ⟨_, rfl, haction _ hcurrent⟩
  | call engine created call => exact ⟨_, rfl, haction ⟨h.current, created⟩ call hcurrent⟩
  | turn engine created calls =>
    exact ⟨_, rfl, Engine.runTurn_keeps haction ⟨h.current, created⟩ calls hcurrent⟩
  | atomicTurn engine created calls =>
    exact ⟨_, rfl, Engine.runTurnAtomic_keeps haction ⟨h.current, created⟩ calls hcurrent⟩
  | restore further =>
    simp only [next]
    split
    · rename_i s hs
      exact ⟨s, by rw [Store.restore_snapshot], hearlier s (List.mem_of_getElem? hs)⟩
    · exact ⟨_, rfl, hcurrent⟩
  | reload => exact haction _ hcurrent

/-- **What every action of a run keeps holds of its stores,** and the run can be carried out. -/
theorem run_keeps {h : StoreHistory} (hcurrent : P h.current) (hearlier : ∀ s ∈ h.earlier, P s)
    {actions : List StoreAction} (hactions : ∀ action ∈ actions, Keeps P action) :
    ∃ h', h.run actions = .ok h' ∧ P h'.current := by
  induction actions generalizing h with
  | nil => exact ⟨h, rfl, hcurrent⟩
  | cons action rest ih =>
    obtain ⟨haction, hrest⟩ := List.forall_mem_cons.mp hactions
    obtain ⟨s, hnext, hs⟩ := next_keeps hcurrent hearlier haction
    have hall : ∀ s' ∈ h.current :: h.earlier, P s' :=
      List.forall_mem_cons.mpr ⟨hcurrent, hearlier⟩
    obtain ⟨h', hrun, hlast⟩ := ih (h := ⟨s, h.current :: h.earlier⟩) hs hall hrest
    refine ⟨h', ?_, hlast⟩
    simp only [run, hnext]
    exact hrun

/-- What changes and reloading keep is kept by every action. -/
theorem keeps_of_change (hchange : ∀ {s s' : Store}, s.Change s' → P s → P s')
    (hreload : ∀ {s : Store}, P s → ∃ s', Store.ofGraph s.graph = .ok s' ∧ P s')
    (action : StoreAction) : Keeps P action := by
  cases action with
  | edit edit => exact fun s hs => hchange (s.change_edit edit) hs
  | call engine | turn engine | atomicTurn engine =>
    exact fun c call hc => hchange (engine.change_executeCall c call) hc
  | restore => trivial
  | reload => exact fun _ hs => hreload hs

end Invariants

end StoreHistory

/-- Where runs begin: with a new store, or with that of a loaded graph. -/
def Store.IsStart (s : Store) : Prop :=
  s = .empty ∨ ∃ g, Store.ofGraph g = .ok s

theorem Store.IsStart.isSound {s : Store} (h : s.IsStart) : s.IsSound := by
  rcases h with rfl | ⟨g, hg⟩
  · exact Store.isSound_empty
  · obtain ⟨s', hs', -, hsound⟩ := Store.exists_ofGraph (Store.integrity_of_ofGraph hg)
    rw [hg] at hs'
    cases hs'
    exact hsound

/-- What holds of a store in a run from `start`: it is sound, and its edges are in as good a state
as those at the start. -/
structure Store.IsSoundSince (start s : Store) : Prop where
  sound : s.IsSound
  distinctEdgeIds : start.graph.HasDistinctEdgeIds → s.graph.HasDistinctEdgeIds
  wellTyped : start.graph.IsWellTyped → s.graph.IsWellTyped
  noParallelEdges : start.graph.HasNoParallelEdges → s.graph.HasNoParallelEdges

namespace Store.IsSoundSince

variable {start s s' : Store}

theorem change (h : start.IsSoundSince s) (hc : s.Change s') : start.IsSoundSince s' where
  sound := hc.isSound h.sound
  distinctEdgeIds hstart := hc.hasDistinctEdgeIds (h.distinctEdgeIds hstart)
  wellTyped hstart := hc.isWellTyped (h.wellTyped hstart)
  noParallelEdges hstart := hc.hasNoParallelEdges (h.noParallelEdges hstart)

/-- A sound store can be reloaded, and its graph stays the same. -/
theorem reload (h : start.IsSoundSince s) :
    ∃ s', Store.ofGraph s.graph = .ok s' ∧ start.IsSoundSince s' := by
  obtain ⟨s', hs', hgraph, hsound⟩ := Store.exists_ofGraph h.sound.integrity
  refine ⟨s', hs', hsound, ?_, ?_, ?_⟩
  · rw [hgraph]; exact h.distinctEdgeIds
  · rw [hgraph]; exact h.wellTyped
  · rw [hgraph]; exact h.noParallelEdges

end Store.IsSoundSince

namespace StoreHistory

/-- Every run from a sound store can be carried out and ends with a sound store. -/
theorem run_isSoundSince {start : Store} (hstart : start.IsSound) (actions : List StoreAction) :
    ∃ h, (begin start).run actions = .ok h ∧ start.IsSoundSince h.current :=
  run_keeps (P := start.IsSoundSince) ⟨hstart, id, id, id⟩ (by simp [begin]) fun action _ =>
    keeps_of_change (fun hc h => h.change hc) (fun h => h.reload) action

/-- **Stores stay sound.** Every run from a new store or a loaded one can be carried out. At its
end the graph has integrity, all nodes are older than the next one, and the graph can be reloaded.
Distinct ids of edges, well-typed edges, and no parallel edges: each of these holds at the end if
it held at the start, where a new store has all three. -/
theorem run_isSound {start : Store} (hstart : start.IsStart) (actions : List StoreAction) :
    ∃ h, (begin start).run actions = .ok h ∧ h.current.IsSound ∧
      (∃ reloaded, Store.ofGraph h.current.graph = .ok reloaded) ∧
      (start.graph.HasDistinctEdgeIds → h.current.graph.HasDistinctEdgeIds) ∧
      (start.graph.IsWellTyped → h.current.graph.IsWellTyped) ∧
      (start.graph.HasNoParallelEdges → h.current.graph.HasNoParallelEdges) ∧
      (start = .empty → h.current.graph.HasDistinctEdgeIds ∧ h.current.graph.IsWellTyped ∧
        h.current.graph.HasNoParallelEdges) := by
  obtain ⟨h, hrun, hsound⟩ := run_isSoundSince hstart.isSound actions
  obtain ⟨reloaded, hreloaded, -⟩ := Store.exists_ofGraph hsound.sound.integrity
  refine ⟨h, hrun, hsound.sound, ⟨reloaded, hreloaded⟩, hsound.distinctEdgeIds,
    hsound.wellTyped, hsound.noParallelEdges, ?_⟩
  rintro rfl
  exact ⟨hsound.distinctEdgeIds Graph.hasDistinctEdgeIds_empty,
    hsound.wellTyped Graph.isWellTyped_empty, hsound.noParallelEdges Graph.hasNoParallelEdges_empty⟩

/-- A run from a loaded graph with an id that a store would choose later: the new model has to
pass over it, and then the loaded one is deleted with its edge, brought back and reloaded. -/
theorem run_isSound_loaded :
    ∃ start, Store.ofGraph
        ⟨[⟨"model-3", .origin, 7, .initial .model⟩, ⟨"x", .origin, 2, .initial .dataset⟩],
          [⟨"e", "x", "model-3", "dataset-output", "model-input"⟩]⟩ = .ok start ∧
      ∃ h, (begin start).run [.edit (.addNode .model .origin), .edit (.deleteNode "model-3"),
          .restore 0, .reload] = .ok h ∧
        h.current.IsSound ∧ (start.graph.IsWellTyped → h.current.graph.IsWellTyped) := by
  obtain ⟨start, hstart⟩ : ∃ start, Store.ofGraph
      ⟨[⟨"model-3", .origin, 7, .initial .model⟩, ⟨"x", .origin, 2, .initial .dataset⟩],
        [⟨"e", "x", "model-3", "dataset-output", "model-input"⟩]⟩ = .ok start := ⟨_, rfl⟩
  obtain ⟨h, hrun, hsound, -, -, htyped, -⟩ := run_isSound (.inr ⟨_, hstart⟩)
    [.edit (.addNode .model .origin), .edit (.deleteNode "model-3"), .restore 0, .reload]
  exact ⟨start, hstart, h, hrun, hsound, htyped⟩

end StoreHistory

end FineTuning

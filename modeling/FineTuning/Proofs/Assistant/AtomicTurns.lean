import FineTuning.Assistant.Session
import FineTuning.Proofs.StoreRuns

/-!
# Turns as a whole or not at all

A turn that has to be carried out as a whole is first carried out like any other one. If a call of
it fails, the store is taken back to its snapshot, and the report is changed to say so.

* `Engine.runTurnAtomic_of_success`, `Engine.runTurnAtomic_of_failure`: the two outcomes.
* `Session.runTurnAtomic_all_or_nothing`: the same for sessions, and for all that is done later.
-/

namespace FineTuning

/-- The report of a turn that was undone: nothing was carried out and no node created, and the rest
stays as it was reported. -/
def TurnReport.undone (report : TurnReport) (created : List String) : TurnReport :=
  { report with processed := 0, created }

namespace Engine

variable {engine : Engine} {c : Conversation Store} {calls : List ToolCall}

theorem runTurnAtomic_of_success (h : (engine.runTurn c calls).1.success = true) :
    engine.runTurnAtomic c calls = engine.runTurn c calls := by
  simp only [runTurnAtomic, h, ↓reduceIte]

theorem runTurnAtomic_of_failure (h : (engine.runTurn c calls).1.success = false) :
    engine.runTurnAtomic c calls = ((engine.runTurn c calls).1.undone c.created, c.editor) := by
  simp only [runTurnAtomic, h, Bool.false_eq_true, ↓reduceIte, Store.restore_snapshot,
    TurnReport.undone]

end Engine

namespace Session

/-- **All or nothing.** If all calls of a turn succeed, carrying it out as a whole is carrying it
out. Otherwise the session stays as it was, counters included, so that whatever is done later
comes out as if the turn had never been tried; nothing is reported as carried out or created, but
the replies and errors are those of the attempt. -/
theorem runTurnAtomic_all_or_nothing (session : Session) (calls : List ToolCall)
    (created : List String) :
    let plain := session.runTurn calls created
    let atomic := session.runTurnAtomic calls created
    (plain.1.success = true → atomic = plain) ∧
    (plain.1.success = false →
      atomic.2 = session ∧
      atomic.2.store.graph.nodes = session.store.graph.nodes ∧
      atomic.2.store.graph.edges = session.store.graph.edges ∧
      atomic.2.store.nextNode = session.store.nextNode ∧
      atomic.2.store.nextSeq = session.store.nextSeq ∧
      (∀ actions, (StoreHistory.begin atomic.2.store).run actions =
        (StoreHistory.begin session.store).run actions) ∧
      atomic.1.success = false ∧ atomic.1.processed = 0 ∧ atomic.1.created = created ∧
      atomic.1.replies = plain.1.replies ∧ atomic.1.errors = plain.1.errors) := by
  intro plain atomic
  refine ⟨fun h => ?_, fun h => ?_⟩
  · have hturn := Engine.runTurnAtomic_of_success h
    simp only [atomic, plain, runTurnAtomic, runTurn, hturn]
  · have hturn := Engine.runTurnAtomic_of_failure h
    have hatomic : atomic = (plain.1.undone created, session) := by
      simp only [atomic, plain, runTurnAtomic, runTurn, hturn]
    rw [hatomic]
    exact ⟨rfl, rfl, rfl, rfl, rfl, fun _ => rfl, h, rfl, rfl, rfl, rfl⟩

/-- A turn that adds a node before it fails: it has moved both counters, and they are moved back. -/
theorem runTurnAtomic_all_or_nothing_added :
    let session : Session := ⟨.empty, ⟨[]⟩, .default⟩
    let added : ToolCall := ⟨"addNode", .object [("kind", .string "model"),
      ("position", .object [("x", .ofNat 1), ("y", .ofNat 2)])]⟩
    let missing : ToolCall := ⟨"deleteNode", .object [("nodeId", .string "x")]⟩
    (session.runTurn [added, missing] []).2.store.nextNode = 2 ∧
      (session.runTurnAtomic [added, missing] []).2 = session ∧
      (session.runTurnAtomic [added] []) = session.runTurn [added] [] := by
  intro session added missing
  obtain ⟨hsession, -⟩ := (runTurnAtomic_all_or_nothing session [added, missing] []).2 rfl
  exact ⟨rfl, hsession, (runTurnAtomic_all_or_nothing session [added] []).1 rfl⟩

end Session

end FineTuning

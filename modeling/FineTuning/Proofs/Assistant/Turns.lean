import FineTuning.Proofs.Assistant.Calls
import FineTuning.Proofs.Except

/-!
# Turns and the calls that fail in them

A call that fails changes nothing, so a turn does what the calls that succeed in it do by
themselves, one after the other (`runTurn_isolates_failures`). The report of a turn tells exactly
which calls failed.

* `executeAll_keeps`: what every call keeps is kept by a turn.
* `executeAll_succeeding`: a turn of the calls that succeed has their results and the same end.
* `mem_failedCalls_index`: the places of the calls that failed.
-/

namespace FineTuning

namespace Engine

/-! ## What a turn keeps -/

section Keeps

variable {P : Store → Prop} {engine : Engine}
  (hcall : ∀ (c : Conversation Store) (call : ToolCall), P c.editor →
    P (engine.executeCall c call).2.editor)
include hcall

theorem executeAll_keeps (calls : List ToolCall) (c : Conversation Store) (h : P c.editor) :
    P (engine.executeAll c calls).2.editor := by
  induction calls generalizing c with
  | nil => exact h
  | cons call rest ih => exact ih _ (hcall c call h)

theorem runTurn_keeps (c : Conversation Store) (calls : List ToolCall) (h : P c.editor) :
    P (engine.runTurn c calls).2 :=
  executeAll_keeps hcall calls c h

theorem runTurnAtomic_keeps (c : Conversation Store) (calls : List ToolCall) (h : P c.editor) :
    P (engine.runTurnAtomic c calls).2 := by
  simp only [runTurnAtomic]
  split
  · exact runTurn_keeps hcall c calls h
  · exact h

end Keeps

/-! ## The calls that succeed -/

/-- The results of a turn begin with that of its first call. -/
theorem executeAll_cons {σ : Type} [GraphEditor σ] (engine : Engine) (c : Conversation σ)
    (call : ToolCall) (rest : List ToolCall) :
    engine.executeAll c (call :: rest) =
      ((call, (engine.executeCall c call).1) ::
          (engine.executeAll (engine.executeCall c call).2 rest).1,
        (engine.executeAll (engine.executeCall c call).2 rest).2) := rfl

theorem executeAll_calls {σ : Type} [GraphEditor σ] (engine : Engine) (calls : List ToolCall)
    (c : Conversation σ) :
    (engine.executeAll c calls).1.map (·.1) = calls := by
  induction calls generalizing c with
  | nil => rfl
  | cons call rest ih => rw [executeAll_cons, List.map_cons, ih]

/-- **Simulation.** The calls that succeed in a turn do the same by themselves: each has its result,
and the conversation ends the same. -/
theorem executeAll_succeeding (engine : Engine) (calls : List ToolCall) (c : Conversation Store) :
    engine.executeAll c (((engine.executeAll c calls).1.filter (·.2.isOk)).map (·.1)) =
      ((engine.executeAll c calls).1.filter (·.2.isOk), (engine.executeAll c calls).2) := by
  induction calls generalizing c with
  | nil => rfl
  | cons call rest ih =>
    rw [executeAll_cons]
    cases hresult : (engine.executeCall c call).1 with
    | ok outcome =>
      simp only [List.filter_cons, isOk_ok, ↓reduceIte, List.map_cons]
      rw [executeAll_cons, hresult, ih (engine.executeCall c call).2]
    | error error =>
      -- The call is passed over, and the conversation is still what it was before it.
      have hsame := executeCall_of_error hresult
      simp only [List.filter_cons, isOk_error, Bool.false_eq_true, ↓reduceIte, hsame]
      exact ih c

end Engine

/-! ## The calls that fail -/

section FailedCalls

variable {results : List (ToolCall × ToolResult)} {first i : Nat}

/-- The places of the calls that failed are those of the errors among the results. -/
theorem mem_failedCalls_index : i ∈ (failedCalls first results).map (·.index) ↔
    ∃ k call error, i = first + k ∧ results[k]? = some (call, .error error) := by
  induction results generalizing first with
  | nil => simp [failedCalls]
  | cons result rest ih =>
    obtain ⟨call, result⟩ := result
    have hshift : (∃ k call error, i = first + 1 + k ∧ rest[k]? = some (call, .error error)) ↔
        ∃ k call' error, i = first + (k + 1) ∧
          ((call, result) :: rest)[k + 1]? = some (call', .error error) := by
      simp only [List.getElem?_cons_succ, Nat.add_assoc, Nat.add_comm 1]
    cases result with
    | ok outcome =>
      simp only [failedCalls, ih, hshift]
      constructor
      · rintro ⟨k, h⟩
        exact ⟨k + 1, h⟩
      · rintro ⟨_ | k, call', error, hi, hat⟩
        · cases hat
        · exact ⟨k, call', error, hi, hat⟩
    | error error =>
      simp only [failedCalls, List.map_cons, List.mem_cons, ih, hshift]
      constructor
      · rintro (rfl | ⟨k, h⟩)
        · exact ⟨0, call, error, rfl, rfl⟩
        · exact ⟨k + 1, h⟩
      · rintro ⟨_ | k, call', error', hi, hat⟩
        · exact .inl hi
        · exact .inr ⟨k, call', error', hi, hat⟩

theorem failedCalls_index_pairwise (first : Nat) (results : List (ToolCall × ToolResult)) :
    ((failedCalls first results).map (·.index)).Pairwise (· < ·) := by
  induction results generalizing first with
  | nil => exact List.Pairwise.nil
  | cons result rest ih =>
    obtain ⟨call, result⟩ := result
    cases result with
    | ok outcome => exact ih (first + 1)
    | error error =>
      refine List.Pairwise.cons (fun i hi => ?_) (ih (first + 1))
      obtain ⟨k, -, -, rfl, -⟩ := mem_failedCalls_index.mp hi
      show first < first + 1 + k
      omega

/-- A call succeeds or fails, and not both. -/
theorem countP_add_length_failedCalls (first : Nat) (results : List (ToolCall × ToolResult)) :
    results.countP (·.2.isOk) + (failedCalls first results).length = results.length := by
  induction results generalizing first with
  | nil => rfl
  | cons result rest ih =>
    obtain ⟨call, result⟩ := result
    have hrest := ih (first + 1)
    cases result with
    | ok outcome =>
      simp only [failedCalls, List.countP_cons, List.length_cons, isOk_ok, ↓reduceIte]
      omega
    | error error =>
      simp only [failedCalls, List.countP_cons, List.length_cons, isOk_error, Bool.false_eq_true,
        ↓reduceIte]
      omega

theorem failedCalls_filter_isOk (first : Nat) (results : List (ToolCall × ToolResult)) :
    failedCalls first (results.filter (·.2.isOk)) = [] := by
  have hcount := countP_add_length_failedCalls first (results.filter (·.2.isOk))
  have hall : (results.filter (·.2.isOk)).countP (·.2.isOk) = (results.filter (·.2.isOk)).length :=
    List.countP_eq_length.mpr fun result hresult => (List.mem_filter.mp hresult).2
  exact List.eq_nil_of_length_eq_zero (by omega)

end FailedCalls

/-! ## The report -/

theorem ToolReply.success_ofResult (result : ToolResult) :
    (ofResult result).success = result.isOk := by
  cases result <;> rfl

namespace TurnReport

/-- The calls of a turn whose reply in the report is a success. -/
def succeeded (report : TurnReport) (calls : List ToolCall) : List ToolCall :=
  ((calls.zip report.replies).filter (·.2.success)).map (·.1)

/-- The report accounts for every call of the turn. -/
structure Accounts (report : TurnReport) (calls : List ToolCall) : Prop where
  /-- There is one reply for each call. -/
  length_replies : report.replies.length = calls.length
  /-- Every call is counted as carried out or as failed. -/
  processed_add_errors : report.processed + report.errors.length = calls.length
  success_iff : report.success = true ↔ report.errors = []
  index_increasing : (report.errors.map (·.index)).Pairwise (· < ·)
  /-- The errors stand exactly where the replies are failures. -/
  index_iff : ∀ i, i ∈ report.errors.map (·.index) ↔
    ∃ reply, report.replies[i]? = some reply ∧ reply.success = false

variable (results : List (ToolCall × ToolResult)) (created : List String)

theorem succeeded_ofResults : (ofResults results created).succeeded (results.map (·.1)) =
    (results.filter (·.2.isOk)).map (·.1) := by
  simp only [succeeded, ofResults, List.zip_map', List.filter_map, List.map_map]
  congr 1
  refine List.filter_congr fun result _ => ?_
  exact ToolReply.success_ofResult result.2

theorem accounts_ofResults : (ofResults results created).Accounts (results.map (·.1)) where
  length_replies := by simp [ofResults]
  processed_add_errors := by
    rw [List.length_map]
    exact countP_add_length_failedCalls 0 results
  success_iff := List.isEmpty_iff
  index_increasing := failedCalls_index_pairwise 0 results
  index_iff i := by
    simp only [ofResults, mem_failedCalls_index, Nat.zero_add, List.getElem?_map,
      Option.map_eq_some_iff]
    constructor
    · rintro ⟨k, call, error, rfl, hat⟩
      exact ⟨_, ⟨_, hat, rfl⟩, rfl⟩
    · rintro ⟨reply, ⟨⟨call, result⟩, hat, rfl⟩, hfailed⟩
      cases result with
      | ok outcome => cases hfailed
      | error error => exact ⟨i, call, error, rfl, hat⟩

end TurnReport

namespace Engine

/-- The turn of only those calls that succeed in the turn of all. -/
def runSucceeding (engine : Engine) (c : Conversation Store) (calls : List ToolCall) :
    TurnReport × Store :=
  engine.runTurn c ((engine.runTurn c calls).1.succeeded calls)

/-- **Failures are isolated.** A call that fails leaves the store, counters included, and the list
of created nodes as they were. So a turn ends like the turn of only those calls that succeed in
it, which has no errors; and the report accounts for every call. -/
theorem runTurn_isolates_failures (engine : Engine) (c : Conversation Store)
    (calls : List ToolCall) :
    (∀ call error, (engine.executeCall c call).1 = .error error →
      (engine.executeCall c call).2 = c) ∧
    (engine.runSucceeding c calls).2 = (engine.runTurn c calls).2 ∧
    (engine.runSucceeding c calls).1.created = (engine.runTurn c calls).1.created ∧
    (engine.runSucceeding c calls).1.errors = [] ∧
    (engine.runTurn c calls).1.Accounts calls := by
  have hcalls := executeAll_calls engine calls c
  have hsucceeded : (engine.runTurn c calls).1.succeeded calls =
      ((engine.executeAll c calls).1.filter (·.2.isOk)).map (·.1) := by
    have h := TurnReport.succeeded_ofResults (engine.executeAll c calls).1
      (engine.executeAll c calls).2.created
    rw [hcalls] at h
    exact h
  have haccounts := TurnReport.accounts_ofResults (engine.executeAll c calls).1
    (engine.executeAll c calls).2.created
  rw [hcalls] at haccounts
  have hagain : engine.runSucceeding c calls =
      (.ofResults ((engine.executeAll c calls).1.filter (·.2.isOk))
        (engine.executeAll c calls).2.created, (engine.executeAll c calls).2.editor) := by
    unfold runSucceeding
    rw [hsucceeded]
    unfold runTurn
    rw [executeAll_succeeding]
  rw [hagain]
  exact ⟨fun call error => executeCall_of_error, rfl, rfl, failedCalls_filter_isOk 0 _, haccounts⟩

/-- The call for a node that does not exist is passed over. -/
theorem runTurn_isolates_failures_missing :
    let engine := Engine.ofConfig ⟨[]⟩ .default
    let c : Conversation Store := ⟨.empty, []⟩
    let missing : ToolCall := ⟨"deleteNode", .object [("nodeId", .string "x")]⟩
    let added : ToolCall := ⟨"addNode", .object [("kind", .string "model"),
      ("position", .object [("x", .ofNat 1), ("y", .ofNat 2)])]⟩
    (engine.executeCall c missing).1 = .error (.nodeNotFound "x") ∧
      (engine.executeCall c missing).2 = c ∧
      (engine.runTurn c [missing, added]).1.succeeded [missing, added] = [added] ∧
      (engine.runSucceeding c [missing, added]).2 = (engine.runTurn c [missing, added]).2 := by
  have h := runTurn_isolates_failures (Engine.ofConfig ⟨[]⟩ .default) ⟨.empty, []⟩
  refine ⟨rfl, (h []).1 _ _ rfl, rfl, (h _).2.1⟩

end Engine

end FineTuning

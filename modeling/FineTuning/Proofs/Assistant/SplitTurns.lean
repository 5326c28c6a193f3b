import FineTuning.Proofs.Assistant.Turns

/-!
# Turns that are split

Calls know of each other only by what they leave behind: the graph with all that its editor keeps,
and the list of created nodes, by which `NEW_NODE_ID` and lost endpoints are resolved. A turn hands
both on. So it makes no difference where a list of calls is split into turns, and the report of the
whole is made of the reports of its parts.

* `Engine.executeAll_append`: later calls are carried out where the earlier ones have ended.
* `failedCalls_append`, `failedCalls_add`: the calls that fail in the second part are counted on
  from the first.
* `TurnReport.ofResults_append`: the report of the whole.
* `Engine.runTurn_append`: a turn of all calls and two turns of its parts.
-/

namespace FineTuning

/-! ## The calls that fail -/

/-- The failed call where so many calls come before its turn. -/
def FailedCall.after (count : Nat) (failed : FailedCall) : FailedCall :=
  { failed with index := count + failed.index }

section FailedCalls

variable (first : Nat) (results later : List (ToolCall × ToolResult))

/-- Where more calls come first, all places move on by their number. -/
theorem failedCalls_add (count : Nat) :
    failedCalls (count + first) results = (failedCalls first results).map (·.after count) := by
  induction results generalizing first with
  | nil => rfl
  | cons result rest ih =>
    obtain ⟨call, result⟩ := result
    have hrest := ih (first + 1)
    rw [← Nat.add_assoc] at hrest
    cases result with
    | ok outcome => exact hrest
    | error error => simp only [failedCalls, List.map_cons, hrest, FailedCall.after]

/-- The calls that fail in the second part are counted on from the first. -/
theorem failedCalls_append :
    failedCalls first (results ++ later) =
      failedCalls first results ++ failedCalls (first + results.length) later := by
  induction results generalizing first with
  | nil => rfl
  | cons result rest ih =>
    obtain ⟨call, result⟩ := result
    have hlength : first + 1 + rest.length = first + (rest.length + 1) := by omega
    have hrest := ih (first + 1)
    rw [hlength] at hrest
    cases result with
    | ok outcome => exact hrest
    | error error => simp only [List.cons_append, failedCalls, hrest, List.length_cons]

end FailedCalls

/-! ## Reports -/

namespace TurnReport

/-- The report of a turn and of the one after it, as if they were one. -/
def followedBy (report next : TurnReport) : TurnReport where
  success := report.success && next.success
  processed := report.processed + next.processed
  errors := report.errors ++ next.errors.map (·.after report.replies.length)
  created := next.created
  replies := report.replies ++ next.replies

/-- The list of nodes that the first turn ends with does not show in the report of the whole, which
has that of the second. -/
theorem ofResults_append (results later : List (ToolCall × ToolResult))
    (between created : List String) :
    ofResults (results ++ later) created =
      (ofResults results between).followedBy (ofResults later created) := by
  have herrors : failedCalls 0 (results ++ later) =
      failedCalls 0 results ++ (failedCalls 0 later).map (·.after results.length) := by
    rw [failedCalls_append, Nat.zero_add, ← failedCalls_add, Nat.add_zero]
  have hsuccess : (failedCalls 0 (results ++ later)).isEmpty =
      ((failedCalls 0 results).isEmpty && (failedCalls 0 later).isEmpty) := by
    rw [herrors, Bool.eq_iff_iff]
    simp
  rw [herrors] at hsuccess
  simp only [ofResults, followedBy, hsuccess, herrors, List.countP_append, List.map_append,
    List.length_map]

end TurnReport

/-! ## Turns -/

namespace Engine

variable {σ : Type} [GraphEditor σ]

/-- Later calls are carried out where the earlier ones have ended. -/
theorem executeAll_append (engine : Engine) (c : Conversation σ) (calls later : List ToolCall) :
    engine.executeAll c (calls ++ later) =
      ((engine.executeAll c calls).1 ++
          (engine.executeAll (engine.executeAll c calls).2 later).1,
        (engine.executeAll (engine.executeAll c calls).2 later).2) := by
  induction calls generalizing c with
  | nil => rfl
  | cons call rest ih =>
    rw [List.cons_append, executeAll_cons, ih, executeAll_cons, List.cons_append]

theorem length_replies (engine : Engine) (c : Conversation σ) (calls : List ToolCall) :
    (engine.runTurn c calls).1.replies.length = calls.length := by
  have hcalls := congrArg List.length (executeAll_calls engine calls c)
  simpa [runTurn, TurnReport.ofResults] using hcalls

/-- The second turn begins with the graph and the list of nodes that the first hands on. -/
theorem runTurn_eq_followedBy (engine : Engine) (c : Conversation σ)
    (calls later : List ToolCall) :
    engine.runTurn c (calls ++ later) =
      let (report, middle) := engine.runTurn c calls
      let (next, last) := engine.runTurn ⟨middle, report.created⟩ later
      (report.followedBy next, last) := by
  simp only [runTurn, executeAll_append]
  rw [TurnReport.ofResults_append _ _ (engine.executeAll c calls).2.created]
  rfl

/-- **Turns compose.** To carry out all calls in one turn is to carry out the first of them in a
turn, and the others in a turn that begins with the graph and the list of created nodes that this
one hands back. Both ways end with the same graph under edit, all that the editor keeps included,
and the same list of created nodes. The report of the one turn has the replies of both, the sum of
what they have carried out, and the errors of both, those of the second counted on from the number
of calls in the first; and it is a success just when both are. -/
theorem runTurn_append (engine : Engine) (c : Conversation σ) (calls later : List ToolCall) :
    let whole := engine.runTurn c (calls ++ later)
    let first := engine.runTurn c calls
    let second := engine.runTurn ⟨first.2, first.1.created⟩ later
    whole.2 = second.2 ∧
      whole.1.created = second.1.created ∧
      whole.1.replies = first.1.replies ++ second.1.replies ∧
      whole.1.processed = first.1.processed + second.1.processed ∧
      whole.1.errors = first.1.errors ++ second.1.errors.map
        (fun failed => { failed with index := calls.length + failed.index }) ∧
      (whole.1.success = true ↔ first.1.success = true ∧ second.1.success = true) := by
  intro whole first second
  have hwhole : whole = (first.1.followedBy second.1, second.2) :=
    runTurn_eq_followedBy engine c calls later
  have hcount : first.1.replies.length = calls.length := length_replies engine c calls
  rw [hwhole, ← hcount]
  exact ⟨rfl, rfl, rfl, rfl, rfl, Bool.and_eq_true_iff⟩

end Engine

end FineTuning

import FineTuning.Assistant.Engine

/-!
# Turns

A turn is a list of calls, which are carried out one after the other. Calls that fail are skipped;
what the others have done stays. The report has one reply for each call.
-/

namespace FineTuning

/-- What an assistant is told about a call. -/
structure ToolReply where
  success : Bool
  message : String
deriving DecidableEq

namespace ToolReply

/-- The reply to a call with a result. -/
def ofResult : ToolResult → ToolReply
  | .ok outcome => ⟨true, outcome.message⟩
  | .error error => ⟨false, error.message⟩

/-- The reply for assistants to which a failed call has to look like an error. -/
def toExcept (reply : ToolReply) : Except String String :=
  if reply.success then .ok reply.message else .error reply.message

end ToolReply

/-- A call that failed. -/
structure FailedCall where
  /-- How many calls of the turn came before it. -/
  index : Nat
  toolName : String
  error : ToolError
deriving DecidableEq

/-- The error with the call that it belongs to. -/
def FailedCall.message (failed : FailedCall) : String :=
  s!"#{(failed.index + 1).repr} {failed.toolName}: {failed.error.message}"

/-- What a turn has done. -/
structure TurnReport where
  /-- Whether no call failed. -/
  success : Bool
  /-- How many calls did not fail. -/
  processed : Nat
  errors : List FailedCall
  /-- The nodes created in the conversation, those of this turn included. -/
  created : List String
  replies : List ToolReply
deriving DecidableEq

/-- The calls that failed, the first call of the list being number `index`. -/
def failedCalls (index : Nat) : List (ToolCall × ToolResult) → List FailedCall
  | [] => []
  | (call, .error error) :: rest => ⟨index, call.toolName, error⟩ :: failedCalls (index + 1) rest
  | (_, .ok _) :: rest => failedCalls (index + 1) rest

/-- The report of a turn in which the calls had these results. -/
def TurnReport.ofResults (results : List (ToolCall × ToolResult)) (created : List String) :
    TurnReport where
  success := (failedCalls 0 results).isEmpty
  processed := results.countP (·.2.isOk)
  errors := failedCalls 0 results
  created := created
  replies := results.map fun result => .ofResult result.2

namespace Engine

variable {σ : Type} [GraphEditor σ]

/-- Carries out calls in order. -/
def executeAll (engine : Engine) (c : Conversation σ) :
    List ToolCall → List (ToolCall × ToolResult) × Conversation σ
  | [] => ([], c)
  | call :: rest =>
    let (result, c) := engine.executeCall c call
    let (results, c) := engine.executeAll c rest
    ((call, result) :: results, c)

/-- Carries out a turn. -/
def runTurn (engine : Engine) (c : Conversation σ) (calls : List ToolCall) :
    TurnReport × σ :=
  let (results, c) := engine.executeAll c calls
  (.ofResults results c.created, c.editor)

/-- Carries out a turn as a whole or not at all. If a call fails, the store is taken back to where
it was, and nothing counts as done; the replies still tell what was tried. -/
def runTurnAtomic (engine : Engine) (c : Conversation Store) (calls : List ToolCall) :
    TurnReport × Store :=
  let snapshot := c.editor.snapshot
  let (report, store) := engine.runTurn c calls
  if report.success then (report, store)
  else ({ report with processed := 0, created := c.created }, store.restore snapshot)

end Engine

end FineTuning

import FineTuning.Job.Description

/-!
# Compiling jobs

A graph is validated, its training path becomes a plan, and the plan a job description. The result
is all or nothing.
-/

namespace FineTuning

/-- A compiled job. -/
structure Job where
  description : JobDescription
  plan : Plan
  /-- Datasets that were left out. -/
  warnings : List CompileError
deriving DecidableEq

namespace Graph

/-- Validates the graph and plans its job. -/
def plan (g : Graph) (storagePrefix : String) :
    Except CompileFailure (Plan × List CompileError) :=
  Plan.ofReport g g.topology storagePrefix

/-- The job of the graph. -/
def compile (g : Graph) (context : JobContext) (storagePrefix : String) :
    Except CompileFailure Job := do
  let (plan, warnings) ← g.plan storagePrefix
  let description ← JobDescription.ofPlan plan context
  return ⟨description, plan, warnings⟩

end Graph

end FineTuning

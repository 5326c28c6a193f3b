import FineTuning.Assistant.Turn
import FineTuning.Job.Compile

/-!
# Sessions

A session is a graph that a person and an assistant edit together, with the catalog and the
configuration that apply to it.
-/

namespace FineTuning

/-- A graph under edit, with what applies to it. -/
structure Session where
  store : Store
  catalog : Catalog
  config : Config
deriving DecidableEq

namespace Session

/-- The engine that carries out the calls of the assistant. -/
def engine (session : Session) : Engine :=
  .ofConfig session.catalog session.config

/-- Carries out a turn. Calls that succeed stay carried out even if others fail. -/
def runTurn (session : Session) (calls : List ToolCall) (created : List String) :
    TurnReport × Session :=
  let (report, store) := session.engine.runTurn ⟨session.store, created⟩ calls
  (report, { session with store })

/-- Carries out a turn as a whole or not at all. -/
def runTurnAtomic (session : Session) (calls : List ToolCall) (created : List String) :
    TurnReport × Session :=
  let (report, store) := session.engine.runTurnAtomic ⟨session.store, created⟩ calls
  (report, { session with store })

/-- The report of validation of the graph as it is. -/
def topology (session : Session) : TopologyReport :=
  session.store.graph.topology

/-- The job of the graph as it is, with the configured prefix of storage ids. -/
def compile (session : Session) (context : JobContext) : Except CompileFailure Job :=
  session.store.graph.compile context session.config.storageUriPrefix

end Session

end FineTuning

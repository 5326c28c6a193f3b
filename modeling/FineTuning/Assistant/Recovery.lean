import FineTuning.Graph.Basic

/-!
# Recovery of endpoints

Assistants sometimes give a title or an outdated id where the id of a node belongs. If the handle
tells what kind of node is meant, a recovery may choose a node of that kind.
-/

namespace FineTuning

/-- Chooses a node of a kind in a graph, knowing the nodes created in this conversation. -/
abbrev Recovery := Graph → (created : List String) → NodeKind → Option String

/-- The kind of node that a handle implies. -/
def impliedKind? (handle : String) : Option NodeKind :=
  (Handle.ofName? handle).map (·.nodeKind)

namespace Recovery

/-- The node that was created last, the later one among equals. -/
def newest? : List Node → Option Node
  | [] => none
  | first :: rest =>
    some (rest.foldl (fun best node => if best.createdSeq ≤ node.createdSeq then node else best)
      first)

/-- Chooses the latest node: of those created in the conversation the last one that is still
there, and otherwise the newest of the graph. -/
def latestOfKind : Recovery := fun g created kind =>
  (created.reverse.find? (g.kindOf? · == some kind)).or
    ((newest? (g.nodesOfKind kind)).map (·.id))

end Recovery

end FineTuning

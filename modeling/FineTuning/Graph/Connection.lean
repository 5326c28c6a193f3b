import FineTuning.Graph.Basic

/-!
# Compatible connections

An edge is well typed when its handles are those of a kind of edge and its ends are two different
nodes of the kinds that own these handles.
-/

namespace FineTuning.Graph

/-- Whether an edge between the nodes at the handles is well typed. Edges that are already there
make no difference. -/
def isCompatible (g : Graph) (source target sourceHandle targetHandle : String) : Bool :=
  source != target &&
    match EdgeKind.ofHandleNames? sourceHandle targetHandle, g.kindOf? source, g.kindOf? target with
    | some kind, some sourceKind, some targetKind => kind.endpointKinds == (sourceKind, targetKind)
    | _, _, _ => false

end FineTuning.Graph

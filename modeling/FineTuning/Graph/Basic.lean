import FineTuning.Graph.Edge

/-!
# Pipeline graphs

A graph lists its nodes and edges in the order in which they were added; validation and
compilation go through them in that order. A graph has integrity when no two nodes have the same
id and both ends of every edge are nodes. `Graph.checkIntegrity` names the first fault.
-/

namespace FineTuning

/-- A pipeline graph. -/
structure Graph where
  nodes : List Node
  edges : List Edge
deriving DecidableEq

/-- Why a graph has no integrity. -/
inductive IntegrityError where
  | duplicateNodeId (id : String)
  | danglingEdge (edgeId : String) (missingNodeId : String)
deriving DecidableEq

/-- The text of the error. -/
def IntegrityError.message : IntegrityError → String
  | .duplicateNodeId id => s!"Node id '{id}' is used by more than one node"
  | .danglingEdge edgeId missingNodeId =>
    s!"Edge '{edgeId}' references node '{missingNodeId}', which does not exist"

/-- The first of the texts that is among the earlier ones or those already seen. -/
def firstRepeated? (seen : List String) : List String → Option String
  | [] => none
  | x :: rest => if seen.contains x then some x else firstRepeated? (x :: seen) rest

namespace Graph

/-- The graph without nodes. -/
def empty : Graph := ⟨[], []⟩

instance : Inhabited Graph := ⟨empty⟩

/-- The ids of all nodes. -/
def nodeIds (g : Graph) : List String :=
  g.nodes.map (·.id)

/-- The node with an id. -/
def node? (g : Graph) (id : String) : Option Node :=
  g.nodes.find? (·.id == id)

/-- Whether there is a node with the id. -/
def hasNode (g : Graph) (id : String) : Bool :=
  (g.node? id).isSome

/-- The kind of the node with an id. -/
def kindOf? (g : Graph) (id : String) : Option NodeKind :=
  (g.node? id).map (·.kind)

/-- The nodes of a kind, in order. -/
def nodesOfKind (g : Graph) (kind : NodeKind) : List Node :=
  g.nodes.filter (·.kind == kind)

/-- The edge with an id. -/
def edge? (g : Graph) (id : String) : Option Edge :=
  g.edges.find? (·.id == id)

/-- Whether an edge leads from the one node to the other, at whatever handles. -/
def isConnected (g : Graph) (source target : String) : Bool :=
  g.edges.any (·.connects source target)

/-- The edges that end at a handle of a node, in order. -/
def incoming (g : Graph) (nodeId : String) (handle : Handle) : List Edge :=
  g.edges.filter (·.endsAt nodeId handle)

/-- The number of edges that begin or end at a node. -/
def incidentCount (g : Graph) (nodeId : String) : Nat :=
  g.edges.countP (·.touches nodeId)

/-- The nodes with the data of the first one with the id replaced. -/
def setFirst (id : String) (data : NodeData) : List Node → List Node
  | [] => []
  | node :: rest =>
    if node.id == id then { node with data } :: rest else node :: setFirst id data rest

/-- The graph with the data of a node replaced. -/
def setData (g : Graph) (id : String) (data : NodeData) : Graph :=
  { g with nodes := setFirst id data g.nodes }

/-- The first end of the edge, its source before its target, that is not one of the nodes. -/
def missingEnd? (ids : List String) (edge : Edge) : Option String :=
  [edge.source, edge.target].find? (!ids.contains ·)

/-- The first edge with an end that is not one of the nodes. -/
def firstDangling? (ids : List String) (edges : List Edge) : Option IntegrityError :=
  edges.findSome? fun edge => (missingEnd? ids edge).map (.danglingEdge edge.id)

/-- The first fault: a repeated node id, or else an edge with a missing end. -/
def integrityFault? (g : Graph) : Option IntegrityError :=
  match firstRepeated? [] g.nodeIds with
  | some id => some (.duplicateNodeId id)
  | none => firstDangling? g.nodeIds g.edges

/-- Accepts a graph that has integrity. -/
def checkIntegrity (g : Graph) : Except IntegrityError Unit :=
  match g.integrityFault? with
  | some fault => .error fault
  | none => .ok ()

end Graph

end FineTuning

import FineTuning.Graph.Connection
import FineTuning.Graph.Patch

/-!
# The graph store

A store is a graph under edit, with the counters that number new nodes. Its operations never
fail: one that cannot be carried out leaves the store as it is and says so with `false`.

* A new node gets the id `kind-k` for the first number `k`, from the counter on, that is free.
* A new edge gets the id `edge-source-target`, or that with the first free suffix `-2`, `-3`, ..
* Deleting a node deletes its edges.

A snapshot keeps all that a store consists of, so that the store can be taken back to it.

The counters are natural numbers, which never run over. A place in the order of creation has 64 bits
in a text, so what is said of texts is said of stores whose counter has not passed them.
-/

namespace FineTuning

/-- The first number from `n` on that is free; at most `tries` numbers are passed over. -/
def firstFree (isFree : Nat → Bool) : (tries : Nat) → (n : Nat) → Nat
  | 0, n => n
  | tries + 1, n => if isFree n then n else firstFree isFree tries (n + 1)

/-- The id of the node with a number. -/
def NodeKind.nodeId (kind : NodeKind) (number : Nat) : String :=
  s!"{kind.name}-{number.repr}"

/-- The id of the edge with a number between two nodes; the first one carries no number. -/
def Edge.idBetween (source target : String) (number : Nat) : String :=
  if number ≤ 1 then s!"edge-{source}-{target}" else s!"edge-{source}-{target}-{number.repr}"

/-- Names an edge by its id or by its ends. -/
inductive EdgeReference where
  | byId (id : String)
  | byEnds (source : String) (target : String)
deriving DecidableEq

namespace EdgeReference

/-- The reference as messages show it. -/
def text : EdgeReference → String
  | .byId id => s!"'{id}'"
  | .byEnds source target => s!"'{source}' -> '{target}'"

/-- Whether the reference names the edge. -/
def names (reference : EdgeReference) (edge : Edge) : Bool :=
  match reference with
  | .byId id => edge.id == id
  | .byEnds source target => edge.connects source target

end EdgeReference

/-- A graph under edit. -/
structure Store where
  graph : Graph
  /-- Where the search for the number of the next node begins. -/
  nextNode : Nat
  /-- The place of the next node in the order of creation. -/
  nextSeq : Nat
deriving DecidableEq

/-- What a store consisted of at some time. -/
structure StoreSnapshot where
  graph : Graph
  nextNode : Nat
  nextSeq : Nat
deriving DecidableEq

namespace Store

/-- The store of the empty graph. -/
def empty : Store := ⟨.empty, 1, 1⟩

instance : Inhabited Store := ⟨empty⟩

/-- The place after those of all nodes. -/
def seqAfter (nodes : List Node) : Nat :=
  (nodes.map (·.createdSeq)).foldl max 0 + 1

/-- The store of a graph, which must have integrity. New nodes come after those of the graph. -/
def ofGraph (g : Graph) : Except IntegrityError Store := do
  g.checkIntegrity
  return ⟨g, g.nodes.length + 1, seqAfter g.nodes⟩

/-- The number of the next node of a kind. -/
def nextNumber (s : Store) (kind : NodeKind) : Nat :=
  firstFree (fun n => !s.graph.hasNode (kind.nodeId n)) s.graph.nodes.length s.nextNode

/-- The id of the next edge between two nodes. -/
def nextEdgeId (s : Store) (source target : String) : String :=
  let isFree n := (s.graph.edge? (Edge.idBetween source target n)).isNone
  Edge.idBetween source target (firstFree isFree s.graph.edges.length 1)

/-- Adds a node with the data of a new one. The result is its id. -/
def addNode (s : Store) (kind : NodeKind) (position : Position) : String × Store :=
  let number := s.nextNumber kind
  let id := kind.nodeId number
  let node : Node := ⟨id, position, s.nextSeq, .initial kind⟩
  (id, ⟨{ s.graph with nodes := s.graph.nodes ++ [node] }, number + 1, s.nextSeq + 1⟩)

/-- Patches the data of a node, unless there is no such node or the patch does not apply to it. -/
def updateNode (s : Store) (id : String) (patch : NodePatch) : Bool × Store :=
  match (s.graph.node? id).bind fun node => patch.applyTo? node.data with
  | some data => (true, { s with graph := s.graph.setData id data })
  | none => (false, s)

/-- Deletes a node and all edges that begin or end at it, unless there is no such node. -/
def deleteNode (s : Store) (id : String) : Bool × Store :=
  if s.graph.hasNode id then
    let nodes := s.graph.nodes.eraseP (·.id == id)
    let edges := s.graph.edges.filter (!·.touches id)
    (true, { s with graph := ⟨nodes, edges⟩ })
  else (false, s)

/-- Adds an edge, unless it would not be well typed or the two nodes are already connected. -/
def connect (s : Store) (source target sourceHandle targetHandle : String) : Bool × Store :=
  if s.graph.isCompatible source target sourceHandle targetHandle &&
      !s.graph.isConnected source target then
    let edge : Edge := ⟨s.nextEdgeId source target, source, target, sourceHandle, targetHandle⟩
    (true, { s with graph := { s.graph with edges := s.graph.edges ++ [edge] } })
  else (false, s)

/-- Deletes all edges that the reference names, unless there is none. -/
def disconnect (s : Store) (reference : EdgeReference) : Bool × Store :=
  if s.graph.edges.any reference.names then
    let edges := s.graph.edges.filter (!reference.names ·)
    (true, { s with graph := { s.graph with edges } })
  else (false, s)

/-- The store as it is now. -/
def snapshot (s : Store) : StoreSnapshot :=
  ⟨s.graph, s.nextNode, s.nextSeq⟩

/-- Takes the store back to a snapshot. -/
def restore (s : Store) (snapshot : StoreSnapshot) : Store :=
  { s with
    graph := snapshot.graph
    nextNode := snapshot.nextNode
    nextSeq := snapshot.nextSeq }

end Store

end FineTuning

import FineTuning.Graph.Node

/-!
# Nodes of job descriptions

A job description keeps its nodes under their ids, in the order in which they were first put in.
`WireNodes` is such a list without repeated ids; putting in a node replaces an earlier one with
its id.

* `keys_insert`: a new id goes to the end of the keys, and a known one leaves them as they are.
* `get?_insert`: the node that was put in last under an id is the one found there.
-/

namespace FineTuning

/-- The types of nodes of a job description. -/
inductive WireNodeType where
  | dataset
  | baseModel
  | train
deriving DecidableEq

namespace WireNodeType

def all : List WireNodeType := [.dataset, .baseModel, .train]

def name : WireNodeType → String
  | .dataset => "Dataset"
  | .baseModel => "BaseModel"
  | .train => "Train"

end WireNodeType

/-- The properties of a node of a job description; each type of node has some of them. -/
structure WireProps where
  uris : Option (List String) := none
  modelId : Option String := none
  epochs : Option UInt32 := none
  batchSize : Option UInt32 := none
  trainQuant : Option Quantization := none
  downloadQuant : Option Quantization := none
deriving DecidableEq

/-- A node of a job description. -/
structure WireNode where
  id : String
  type : WireNodeType
  props : WireProps
deriving DecidableEq

namespace WireNodes

/-- Puts a node in the place of the one with its id, or else at the end of the list. -/
def insertInto (node : WireNode) : List WireNode → List WireNode
  | [] => [node]
  | entry :: rest => if entry.id == node.id then node :: rest else entry :: insertInto node rest

theorem map_id_insertInto (node : WireNode) (entries : List WireNode) :
    (insertInto node entries).map (·.id) =
      if node.id ∈ entries.map (·.id) then entries.map (·.id)
      else entries.map (·.id) ++ [node.id] := by
  induction entries with
  | nil => rfl
  | cons entry rest ih =>
    by_cases h : entry.id = node.id
    · simp [insertInto, h]
    · simp only [insertInto, beq_iff_eq, h, if_false, List.map_cons, ih, List.mem_cons,
        Ne.symm h, false_or, List.cons_append]
      split <;> rfl

theorem nodup_insertInto (node : WireNode) {entries : List WireNode}
    (h : (entries.map (·.id)).Nodup) : ((insertInto node entries).map (·.id)).Nodup := by
  rw [map_id_insertInto]
  split
  · exact h
  · rename_i hn
    rw [List.nodup_append]
    refine ⟨h, by simp, ?_⟩
    intro id hid last hlast
    rw [List.mem_singleton] at hlast
    exact fun heq => hn (hlast ▸ heq ▸ hid)

end WireNodes

/-- The nodes of a job description in order, no two of them with one id. -/
structure WireNodes where
  entries : List WireNode
  nodup : (entries.map (·.id)).Nodup
deriving DecidableEq

namespace WireNodes

def empty : WireNodes := ⟨[], List.nodup_nil⟩

/-- The nodes with one more, which takes the place of an earlier node with its id. -/
def insert (nodes : WireNodes) (node : WireNode) : WireNodes :=
  ⟨insertInto node nodes.entries, nodup_insertInto node nodes.nodup⟩

/-- The nodes of a list, inserted in order. -/
def ofList (nodes : List WireNode) : WireNodes :=
  nodes.foldl insert empty

/-- The node with an id. -/
def get? (nodes : WireNodes) (id : String) : Option WireNode :=
  nodes.entries.find? (·.id == id)

/-- Whether there is a node with the id. -/
def contains (nodes : WireNodes) (id : String) : Bool :=
  (nodes.get? id).isSome

/-- The ids of all nodes. -/
def keys (nodes : WireNodes) : List String :=
  nodes.entries.map (·.id)

def size (nodes : WireNodes) : Nat :=
  nodes.entries.length

theorem keys_insert (nodes : WireNodes) (node : WireNode) :
    (nodes.insert node).keys =
      if node.id ∈ nodes.keys then nodes.keys else nodes.keys ++ [node.id] :=
  map_id_insertInto node nodes.entries

theorem find?_insertInto (node : WireNode) (entries : List WireNode) (id : String) :
    (insertInto node entries).find? (·.id == id) =
      if node.id = id then some node else entries.find? (·.id == id) := by
  induction entries with
  | nil => by_cases h : node.id = id <;> simp [insertInto, h]
  | cons entry rest ih =>
    by_cases h : entry.id = node.id
    · by_cases hid : node.id = id <;> simp [insertInto, h, hid]
    · simp only [insertInto, beq_iff_eq, h, if_false, List.find?_cons, ih]
      cases hid : entry.id == id with
      | true =>
        have hn : node.id ≠ id := fun hn => h ((eq_of_beq hid).trans hn.symm)
        rw [if_neg hn, if_neg hn]
      | false => rfl

theorem get?_insert (nodes : WireNodes) (node : WireNode) (id : String) :
    (nodes.insert node).get? id = if node.id = id then some node else nodes.get? id :=
  find?_insertInto node nodes.entries id

end WireNodes

end FineTuning

import FineTuning.Proofs.Assistant.AtomicTurns
import FineTuning.Proofs.StoreRuns
import Mathlib.Data.List.Forall2

/-!
# Ids of nodes that were added

A new node gets an id that no node of the graph has. That it also gets one that no deleted node ever
had is up to the counter: in a run that never goes back it only grows, the id tells kind and number,
and all numbers that were given are below it. So an id that an assistant remembers stands for the
node that was added with it, or for none.

* `NodeKind.nodeId_inj`: an id tells the kind and the number.
* `Store.Remembers`: what a store that began empty keeps of the nodes that were added to it.
* `Store.Remembers.edits`: edits keep it.
* `StoreHistory.run_never_reuses_ids`: so no run that goes forward uses an id again.
-/

namespace FineTuning

/-! ## Ids -/

theorem NodeKind.head?_nodeId (kind : NodeKind) (number : Nat) :
    (kind.nodeId number).toList.head? = kind.name.toList.head? := by
  cases kind <;> simp [nodeId, name, toString]

/-- **An id tells the kind and the number.** The names of the kinds begin differently. -/
theorem NodeKind.nodeId_inj {kind kind' : NodeKind} {a b : Nat} :
    kind.nodeId a = kind'.nodeId b ↔ kind = kind' ∧ a = b := by
  constructor
  · intro h
    have hfirst : kind.name.toList.head? = kind'.name.toList.head? := by
      rw [← kind.head?_nodeId a, h, head?_nodeId]
    have hkind : kind = kind' := by
      revert hfirst
      cases kind <;> cases kind' <;> decide
    subst hkind
    exact ⟨rfl, kind.nodeId_injective h⟩
  · rintro ⟨rfl, rfl⟩
    rfl

/-- The nodes are the same but for their data. -/
structure Node.IsSameAs (n m : Node) : Prop where
  id : n.id = m.id
  kind : n.kind = m.kind
  position : n.position = m.position
  createdSeq : n.createdSeq = m.createdSeq

theorem Node.IsSameAs.refl (n : Node) : n.IsSameAs n := ⟨rfl, rfl, rfl, rfl⟩

theorem Node.IsSameAs.symm {a b : Node} (h : a.IsSameAs b) : b.IsSameAs a :=
  ⟨h.id.symm, h.kind.symm, h.position.symm, h.createdSeq.symm⟩

theorem Node.IsSameAs.trans {a b c : Node} (hab : a.IsSameAs b) (hbc : b.IsSameAs c) :
    a.IsSameAs c where
  id := hab.id.trans hbc.id
  kind := hab.kind.trans hbc.kind
  position := hab.position.trans hbc.position
  createdSeq := hab.createdSeq.trans hbc.createdSeq

/-! ## Additions -/

/-- The addition of a node: the id that was given for it, and the store right after it. -/
structure Addition where
  id : String
  store : Store

/-- The node that stands under the id then. -/
def Addition.node? (addition : Addition) : Option Node :=
  addition.store.graph.node? addition.id

/-- The additions have put these nodes into their stores, one each, under the ids that they gave. -/
def HavePut (additions : List Addition) (nodes : List Node) : Prop :=
  List.Forall₂ (fun addition node => addition.node? = some node) additions nodes

namespace HavePut

variable {additions : List Addition} {nodes : List Node}

theorem ids_eq (h : HavePut additions nodes) : additions.map (·.id) = nodes.map (·.id) := by
  induction h with
  | nil => rfl
  | cons hnode _ ih => rw [List.map_cons, List.map_cons, ih, (Graph.mem_of_node?_eq_some hnode).2]

theorem exists_node (h : HavePut additions nodes) :
    ∀ addition ∈ additions, ∃ node ∈ nodes, addition.node? = some node := by
  induction h with
  | nil => exact nofun
  | cons hnode _ ih =>
    refine List.forall_mem_cons.mpr ⟨⟨_, List.mem_cons_self, hnode⟩, fun addition hmem => ?_⟩
    obtain ⟨node, hput, hnode⟩ := ih addition hmem
    exact ⟨node, List.mem_cons_of_mem _ hput, hnode⟩

end HavePut

/-- The addition that an edit is, if it is one. -/
def StoreEdit.additions (s : Store) : StoreEdit → List Addition
  | .addNode kind position => [⟨(s.addNode kind position).1, (s.addNode kind position).2⟩]
  | _ => []

/-- The additions among edits that are carried out one after the other. -/
def Store.additions (s : Store) : List StoreEdit → List Addition
  | [] => []
  | edit :: rest => edit.additions s ++ (s.edit edit).additions rest

/-- The addition that a call with this result was, if it was one. -/
def additionOf (result : ToolResult) (after : Store) : List Addition :=
  match result with
  | .ok (.nodeAdded id _) => [⟨id, after⟩]
  | _ => []

/-- The additions by calls that are carried out one after the other. -/
def Engine.additions (engine : Engine) (c : Conversation Store) : List ToolCall → List Addition
  | [] => []
  | call :: rest =>
    let (result, c) := engine.executeCall c call
    additionOf result c.editor ++ engine.additions c rest

namespace StoreAction

/-- The additions by an action. -/
def additions (s : Store) : StoreAction → List Addition
  | .edit change => change.additions s
  | .call engine created toolCall => engine.additions ⟨s, created⟩ [toolCall]
  | .turn engine created calls => engine.additions ⟨s, created⟩ calls
  | .atomicTurn engine created calls => engine.additions ⟨s, created⟩ calls
  | .restore _ | .reload => []

/-- The action does not go back to an earlier store: it is no restore and no reload, and if it is a
turn that is carried out as a whole or not at all, it is carried out. -/
def IsForward (s : Store) : StoreAction → Prop
  | .edit _ | .call .. | .turn .. => True
  | .atomicTurn engine created calls =>
    (engine.runTurnAtomic ⟨s, created⟩ calls).1.success = true
  | .restore _ | .reload => False

end StoreAction

namespace StoreHistory

/-- The additions in a run. -/
def additions (h : StoreHistory) : List StoreAction → List Addition
  | [] => []
  | action :: rest =>
    match h.next action with
    | .ok store => action.additions h.current ++ additions ⟨store, h.current :: h.earlier⟩ rest
    | .error _ => []

/-- The run never goes back. -/
def GoesForward (h : StoreHistory) : List StoreAction → Prop
  | [] => True
  | action :: rest => action.IsForward h.current ∧
    match h.next action with
    | .ok store => GoesForward ⟨store, h.current :: h.earlier⟩ rest
    | .error _ => False

end StoreHistory

/-! ## What a store keeps of the nodes that were added -/

namespace Store

/-- The nodes that were added to the store are numbered one after the other, their ids are distinct,
and there are no others in its graph. -/
structure Remembers (s : Store) (added : List Node) : Prop where
  nodup : s.graph.nodeIds.Nodup
  numbered : ∀ n ∈ added, ∃ number < s.nextNode, n.id = n.kind.nodeId number
  ids : (added.map (·.id)).Nodup
  createdSeq_lt : ∀ n ∈ added, n.createdSeq < s.nextSeq
  order : added.Pairwise fun a b => a.createdSeq < b.createdSeq
  nodes : ∀ n ∈ s.graph.nodes, ∃ m ∈ added, n.IsSameAs m

theorem remembers_empty : empty.Remembers [] where
  nodup := .nil
  numbered := nofun
  ids := .nil
  createdSeq_lt := nofun
  order := .nil
  nodes := nofun

/-- The node that is added next. -/
def nextAdded (s : Store) (kind : NodeKind) (position : Position) : Node :=
  ⟨(s.addNode kind position).1, position, s.nextSeq, .initial kind⟩

theorem kind_nextAdded (s : Store) (kind : NodeKind) (position : Position) :
    (s.nextAdded kind position).kind = kind := by
  cases kind <;> rfl

variable {s : Store} {added : List Node}

/-- **A node that is added** comes after all others, and none of them had its id. -/
theorem Remembers.addNode (h : s.Remembers added) (kind : NodeKind) (position : Position) :
    (s.addNode kind position).2.Remembers (added ++ [s.nextAdded kind position]) := by
  have hnumber := s.nextNode_le_nextNumber kind
  have hkind := s.kind_nextAdded kind position
  have hid : (s.nextAdded kind position).id = kind.nodeId (s.nextNumber kind) := rfl
  have hnew : (s.nextAdded kind position).id ∉ added.map (·.id) := by
    intro hmem
    obtain ⟨n, hn, hsame⟩ := List.mem_map.mp hmem
    obtain ⟨number, hlt, hgiven⟩ := h.numbered n hn
    rw [hgiven, hid, NodeKind.nodeId_inj] at hsame
    omega
  constructor
  · exact (s.change_edit (.addNode kind position)).nodup_nodeIds h.nodup
  · refine List.forall_mem_append.mpr ⟨fun n hn => ?_, List.forall_mem_singleton.mpr ?_⟩
    · obtain ⟨number, hlt, hgiven⟩ := h.numbered n hn
      have hle : s.nextNode ≤ (s.addNode kind position).2.nextNode := Nat.le_succ_of_le hnumber
      exact ⟨number, Nat.lt_of_lt_of_le hlt hle, hgiven⟩
    · exact ⟨s.nextNumber kind, Nat.lt_succ_self _, by rw [hkind, hid]⟩
  · rw [List.map_append, List.map_singleton, List.nodup_append_comm]
    exact List.nodup_cons.mpr ⟨hnew, h.ids⟩
  · refine List.forall_mem_append.mpr ⟨fun n hn => ?_, List.forall_mem_singleton.mpr ?_⟩
    · exact Nat.lt_succ_of_lt (h.createdSeq_lt n hn)
    · exact Nat.lt_succ_self s.nextSeq
  · refine List.pairwise_append.mpr ⟨h.order, List.pairwise_singleton _ _, ?_⟩
    intro n hn last hlast
    rw [List.mem_singleton.mp hlast]
    exact h.createdSeq_lt n hn
  · refine List.forall_mem_append.mpr ⟨fun n hn => ?_, List.forall_mem_singleton.mpr ?_⟩
    · obtain ⟨m, hm, hsame⟩ := h.nodes n hn
      exact ⟨m, List.mem_append_left _ hm, hsame⟩
    · exact ⟨_, List.mem_append_right _ (List.mem_singleton_self _), .refl _⟩

/-- **An edit that adds no node** leaves the counters and adds no node in any other way. -/
theorem edit_of_addsNoNode (hids : s.graph.nodeIds.Nodup) {edit : StoreEdit}
    (hedit : ∀ kind position, edit ≠ .addNode kind position) :
    (s.edit edit).nextNode = s.nextNode ∧ (s.edit edit).nextSeq = s.nextSeq ∧
      ∀ n ∈ (s.edit edit).graph.nodes, ∃ m ∈ s.graph.nodes, n.IsSameAs m := by
  have hsame : ∀ n ∈ s.graph.nodes, ∃ m ∈ s.graph.nodes, n.IsSameAs m :=
    fun n hn => ⟨n, hn, .refl n⟩
  cases edit with
  | addNode kind position => exact absurd rfl (hedit kind position)
  | updateNode id patch =>
    simp only [Store.edit, perform, updateNode]
    split
    · rename_i data hdata
      obtain ⟨node, hnode, hdata⟩ := Option.bind_eq_some_iff.mp hdata
      refine ⟨rfl, rfl, fun n hn => ?_⟩
      obtain hn | ⟨m, hm, hid, rfl⟩ := Graph.mem_of_mem_setFirst hn
      · exact hsame n hn
      · obtain ⟨hmem, hfound⟩ := Graph.mem_of_node?_eq_some hnode
        obtain rfl := Graph.eq_of_id_eq hids hm hmem (hid.trans hfound.symm)
        exact ⟨m, hm, rfl, NodePatch.kind_of_applyTo? hdata, rfl, rfl⟩
    · exact ⟨rfl, rfl, hsame⟩
  | deleteNode id =>
    simp only [Store.edit, perform, deleteNode]
    split
    · exact ⟨rfl, rfl, fun n hn => hsame n (List.mem_of_mem_eraseP hn)⟩
    · exact ⟨rfl, rfl, hsame⟩
  | connect source target sourceHandle targetHandle =>
    simp only [Store.edit, perform, connect]
    split <;> exact ⟨rfl, rfl, hsame⟩
  | disconnect reference =>
    simp only [Store.edit, perform, disconnect]
    split <;> exact ⟨rfl, rfl, hsame⟩

theorem Remembers.of_edit (h : s.Remembers added) {edit : StoreEdit}
    (hedit : ∀ kind position, edit ≠ .addNode kind position) : (s.edit edit).Remembers added := by
  obtain ⟨hnext, hseq, hnodes⟩ := edit_of_addsNoNode h.nodup hedit
  refine ⟨(s.change_edit edit).nodup_nodeIds h.nodup, hnext ▸ h.numbered, h.ids,
    hseq ▸ h.createdSeq_lt, h.order, fun n hn => ?_⟩
  obtain ⟨between, hbetween, hsame⟩ := hnodes n hn
  obtain ⟨m, hm, hfirst⟩ := h.nodes between hbetween
  exact ⟨m, hm, hsame.trans hfirst⟩

theorem additions_append (s : Store) (edits later : List StoreEdit) :
    s.additions (edits ++ later) = s.additions edits ++ (edits.foldl edit s).additions later := by
  induction edits generalizing s with
  | nil => rfl
  | cons first rest ih =>
    rw [List.cons_append, additions, additions, ih, List.append_assoc, List.foldl_cons]

/-- The node that is added stands under the id that is given for it. -/
theorem node?_addNode (hids : s.graph.nodeIds.Nodup) (kind : NodeKind) (position : Position) :
    (s.addNode kind position).2.graph.node? (s.addNode kind position).1 =
      some (s.nextAdded kind position) := by
  have hids' : (s.addNode kind position).2.graph.nodeIds.Nodup :=
    (s.change_edit (.addNode kind position)).nodup_nodeIds hids
  exact (Graph.node?_eq_some_iff hids').mpr
    ⟨List.mem_append_right _ (List.mem_singleton_self _), rfl⟩

/-- An id that was given stands for the node that was added under it. -/
theorem Remembers.exists_added (h : s.Remembers added) {additions : List Addition}
    (hput : HavePut additions added) {addition : Addition} (haddition : addition ∈ additions)
    {node : Node} (hnode : node ∈ s.graph.nodes) (hid : node.id = addition.id) :
    ∃ first, addition.node? = some first ∧ node.IsSameAs first := by
  obtain ⟨put, hmem, hnamed⟩ := hput.exists_node addition haddition
  obtain ⟨first, hfirst, hsame⟩ := h.nodes node hnode
  have hids : first.id = put.id := by
    rw [← hsame.id, hid, (Graph.mem_of_node?_eq_some hnamed).2]
  obtain rfl := Graph.eq_of_id_eq h.ids hfirst hmem hids
  exact ⟨first, hnamed, hsame⟩

/-- An id stands for the same node as before, if it does for one before and after. -/
theorem Remembers.isSameAs (h : s.Remembers added) {s' : Store} {new : List Node}
    (h' : s'.Remembers (added ++ new)) {node node' : Node} (hnode : node ∈ s.graph.nodes)
    (hnode' : node' ∈ s'.graph.nodes) (hid : node'.id = node.id) : node'.IsSameAs node := by
  obtain ⟨first, hfirst, hsame⟩ := h.nodes node hnode
  obtain ⟨first', hfirst', hsame'⟩ := h'.nodes node' hnode'
  have hids : first'.id = first.id := by rw [← hsame'.id, hid, hsame.id]
  obtain rfl := Graph.eq_of_id_eq h'.ids hfirst' (List.mem_append_left _ hfirst) hids
  exact hsame'.trans hsame.symm

/-- **One edit** keeps what the store remembers, with the node that it adds. -/
theorem Remembers.edit (h : s.Remembers added) (edit : StoreEdit) :
    ∃ new, HavePut (edit.additions s) new ∧ (s.edit edit).Remembers (added ++ new) := by
  cases edit with
  | addNode kind position =>
    exact ⟨[s.nextAdded kind position], .cons (node?_addNode h.nodup kind position) .nil,
      h.addNode kind position⟩
  | updateNode | deleteNode | connect | disconnect =>
    exact ⟨[], .nil, by rw [List.append_nil]; exact h.of_edit nofun⟩

/-- **Any number of edits** keep it. -/
theorem Remembers.edits (h : s.Remembers added) (edits : List StoreEdit) :
    ∃ new, HavePut (s.additions edits) new ∧
      (edits.foldl Store.edit s).Remembers (added ++ new) := by
  induction edits generalizing s added with
  | nil => exact ⟨[], .nil, by rwa [List.append_nil]⟩
  | cons edit rest ih =>
    obtain ⟨first, hfirst, hedit⟩ := h.edit edit
    obtain ⟨later, hlater, hrest⟩ := ih hedit
    refine ⟨first ++ later, List.rel_append hfirst hlater, ?_⟩
    rw [← List.append_assoc]
    exact hrest

end Store

/-! ## Calls and turns -/

/-- A conversation goes on by edits of its store with these additions, and they are the nodes that
it creates. -/
structure Conversation.GoesOn (c : Conversation Store) (additions : List Addition)
    (c' : Conversation Store) : Prop where
  editor : ∃ edits, c'.editor = edits.foldl Store.edit c.editor ∧
    additions = c.editor.additions edits
  created : c'.created = c.created ++ additions.map (·.id)

namespace Conversation.GoesOn

variable {c c' c'' : Conversation Store} {additions later : List Addition}

theorem refl (c : Conversation Store) : c.GoesOn [] c :=
  ⟨⟨[], rfl, rfl⟩, (List.append_nil _).symm⟩

/-- An edit that adds no node. -/
theorem edit {edit : StoreEdit} (hadditions : edit.additions c.editor = []) :
    c.GoesOn [] { c with editor := c.editor.edit edit } where
  editor := ⟨[edit], rfl, by rw [Store.additions, hadditions]; rfl⟩
  created := (List.append_nil _).symm

theorem trans (h : c.GoesOn additions c') (hlater : c'.GoesOn later c'') :
    c.GoesOn (additions ++ later) c'' := by
  obtain ⟨⟨edits, heditor, rfl⟩, hcreated⟩ := h
  obtain ⟨⟨others, heditor', rfl⟩, hcreated'⟩ := hlater
  refine ⟨⟨edits ++ others, ?_, ?_⟩, ?_⟩
  · rw [heditor', heditor, List.foldl_append]
  · rw [Store.additions_append, heditor]
  · rw [hcreated', hcreated, List.map_append, List.append_assoc]

end Conversation.GoesOn

namespace Engine

variable {engine : Engine} {c c' : Conversation Store}

/-- A request goes on with the addition that its result tells. -/
theorem Executed.goesOn {request : ToolRequest} {result : ToolResult}
    (h : Executed engine c request result c') : c.GoesOn (additionOf result c'.editor) c' := by
  cases h with
  | failed | alreadyConnected => exact .refl c
  | nodeUpdated | nodeDeleted | connected | disconnected => exact .edit rfl
  | nodeAdded request kind => exact ⟨⟨[.addNode kind request.position], rfl, rfl⟩, rfl⟩

theorem goesOn_executeCall (engine : Engine) (c : Conversation Store) (call : ToolCall) :
    c.GoesOn (additionOf (engine.executeCall c call).1 (engine.executeCall c call).2.editor)
      (engine.executeCall c call).2 := by
  unfold executeCall
  split
  · exact (executed engine c _).goesOn
  · exact .refl c

/-- **So does a turn,** call by call. -/
theorem goesOn_executeAll (engine : Engine) (calls : List ToolCall) (c : Conversation Store) :
    c.GoesOn (engine.additions c calls) (engine.executeAll c calls).2 := by
  induction calls generalizing c with
  | nil => exact .refl c
  | cons call rest ih => exact (engine.goesOn_executeCall c call).trans (ih _)

/-- The list of created nodes grows by the ids of the nodes that the turn adds. -/
theorem created_runTurn (engine : Engine) (c : Conversation Store) (calls : List ToolCall) :
    (engine.runTurn c calls).1.created = c.created ++ (engine.additions c calls).map (·.id) :=
  (engine.goesOn_executeAll calls c).created

/-- A turn that is taken back was no success. -/
theorem success_runTurnAtomic (engine : Engine) (c : Conversation Store) (calls : List ToolCall) :
    (engine.runTurnAtomic c calls).1.success = (engine.runTurn c calls).1.success := by
  simp only [runTurnAtomic]
  split <;> rfl

end Engine

/-! ## Runs -/

namespace StoreHistory

/-- An action that goes forward is a number of edits. -/
theorem exists_edits_of_isForward {h : StoreHistory} {action : StoreAction}
    (hforward : action.IsForward h.current) :
    ∃ edits, h.next action = .ok (edits.foldl Store.edit h.current) ∧
      action.additions h.current = h.current.additions edits := by
  have hcalls : ∀ (engine : Engine) created calls,
      ∃ edits, (engine.runTurn ⟨h.current, created⟩ calls).2 = edits.foldl Store.edit h.current ∧
        engine.additions ⟨h.current, created⟩ calls = h.current.additions edits :=
    fun engine created calls => (engine.goesOn_executeAll calls ⟨h.current, created⟩).editor
  cases action with
  | edit edit =>
    exact ⟨[edit], rfl, (List.append_nil _).symm⟩
  | call engine created call =>
    obtain ⟨edits, hstore, hadditions⟩ := hcalls engine created [call]
    exact ⟨edits, congrArg Except.ok hstore, hadditions⟩
  | turn engine created calls =>
    obtain ⟨edits, hstore, hadditions⟩ := hcalls engine created calls
    exact ⟨edits, congrArg Except.ok hstore, hadditions⟩
  | atomicTurn engine created calls =>
    obtain ⟨edits, hstore, hadditions⟩ := hcalls engine created calls
    have hsuccess : (engine.runTurn ⟨h.current, created⟩ calls).1.success = true := by
      rw [← Engine.success_runTurnAtomic]
      exact hforward
    refine ⟨edits, ?_, hadditions⟩
    rw [next, Engine.runTurnAtomic_of_success hsuccess, hstore]
  | restore | reload => exact hforward.elim

/-- **A run that goes forward** can be carried out, and is a number of edits. -/
theorem exists_edits_of_goesForward {h : StoreHistory} {actions : List StoreAction}
    (hforward : h.GoesForward actions) :
    ∃ h' edits, h.run actions = .ok h' ∧ h'.current = edits.foldl Store.edit h.current ∧
      h.additions actions = h.current.additions edits := by
  induction actions generalizing h with
  | nil => exact ⟨h, [], rfl, rfl, rfl⟩
  | cons action rest ih =>
    obtain ⟨hfirst, hrest⟩ := hforward
    obtain ⟨edits, hnext, hadditions⟩ := exists_edits_of_isForward hfirst
    rw [hnext] at hrest
    obtain ⟨h', others, hrun, hcurrent, hlater⟩ := ih hrest
    refine ⟨h', edits ++ others, bind_eq_ok_iff.mpr ⟨_, hnext, hrun⟩, ?_, ?_⟩
    · rw [hcurrent, List.foldl_append]
    · rw [Store.additions_append, ← hadditions, ← hlater]
      simp only [additions, hnext]

/-- A run in two parts. -/
theorem run_append (h : StoreHistory) (earlier later : List StoreAction) :
    h.run (earlier ++ later) = h.run earlier >>= fun h' => h'.run later := by
  induction earlier generalizing h with
  | nil => rfl
  | cons action rest ih =>
    rw [List.cons_append, run, run, bind_assoc]
    exact bind_congr fun store => ih _

/-- If both parts go forward, the second one does so from where the first one ends. -/
theorem GoesForward.of_append {h : StoreHistory} {earlier later : List StoreAction}
    (hforward : h.GoesForward (earlier ++ later)) :
    h.GoesForward earlier ∧ ∀ h', h.run earlier = .ok h' → h'.GoesForward later := by
  induction earlier generalizing h with
  | nil =>
    refine ⟨trivial, fun h' hrun => ?_⟩
    cases hrun
    exact hforward
  | cons action rest ih =>
    obtain ⟨hfirst, hrest⟩ := hforward
    obtain ⟨edits, hnext, -⟩ := exists_edits_of_isForward hfirst
    rw [hnext] at hrest
    obtain ⟨hearlier, hlater⟩ := ih hrest
    refine ⟨⟨hfirst, by rw [hnext]; exact hearlier⟩, fun h' hrun => hlater h' ?_⟩
    obtain ⟨store, hstore, hrun⟩ := bind_eq_ok_iff.mp hrun
    rw [hnext] at hstore
    cases hstore
    exact hrun

/-- What a store remembers, it does in every run that goes forward from it. -/
theorem exists_remembers_of_goesForward {h : StoreHistory} {added : List Node}
    (hremembers : h.current.Remembers added) {actions : List StoreAction}
    (hforward : h.GoesForward actions) :
    ∃ h' new, h.run actions = .ok h' ∧ HavePut (h.additions actions) new ∧
      h'.current.Remembers (added ++ new) := by
  obtain ⟨h', edits, hrun, hcurrent, hadditions⟩ := exists_edits_of_goesForward hforward
  obtain ⟨new, hput, hend⟩ := hremembers.edits edits
  refine ⟨h', new, hrun, ?_, ?_⟩
  · rw [hadditions]
    exact hput
  · rw [hcurrent]
    exact hend

/-- **No id is used again.** A run from a new store that goes forward, by edits, calls and turns,
can be carried out, and the ids that are given for the nodes that it adds are distinct. When they
are added, these nodes stand under their ids, and each one comes after those before it in the order
of creation. At the end an id that was given stands for the node that was added under it, or for
none, and an id that stood for a node at any time before does not stand for another one. The list of
created nodes of a turn grows by the ids that the turn gives. -/
theorem run_never_reuses_ids {actions : List StoreAction}
    (hforward : (begin .empty).GoesForward actions) :
    ∃ h, (begin .empty).run actions = .ok h ∧
      (((begin .empty).additions actions).map (·.id)).Nodup ∧
      (∃ nodes : List Node, HavePut ((begin .empty).additions actions) nodes ∧
        nodes.Pairwise fun a b => a.createdSeq < b.createdSeq) ∧
      (∀ addition ∈ (begin .empty).additions actions, ∀ node ∈ h.current.graph.nodes,
        node.id = addition.id → ∃ added, addition.node? = some added ∧ node.IsSameAs added) ∧
      (∀ earlier later, actions = earlier ++ later → ∃ h', (begin .empty).run earlier = .ok h' ∧
        ∀ node ∈ h.current.graph.nodes, ∀ node' ∈ h'.current.graph.nodes, node.id = node'.id →
          node.IsSameAs node') ∧
      ∀ (engine : Engine) (c : Conversation Store) calls, (engine.runTurn c calls).1.created =
        c.created ++ (engine.additions c calls).map (·.id) := by
  obtain ⟨h, nodes, hrun, hput, hremembers⟩ :=
    exists_remembers_of_goesForward Store.remembers_empty hforward
  rw [List.nil_append] at hremembers
  refine ⟨h, hrun, hput.ids_eq ▸ hremembers.ids, ⟨nodes, hput, hremembers.order⟩,
    fun addition haddition node hnode hid => hremembers.exists_added hput haddition hnode hid, ?_,
    Engine.created_runTurn⟩
  rintro earlier later rfl
  obtain ⟨hearlier, hlater⟩ := hforward.of_append
  obtain ⟨h', before, hrun', -, hbefore⟩ :=
    exists_remembers_of_goesForward Store.remembers_empty hearlier
  obtain ⟨hend, after, hrunEnd, -, hafter⟩ :=
    exists_remembers_of_goesForward hbefore (hlater h' hrun')
  -- The two parts end where the whole run does.
  have hsame : hend = h := by
    rw [run_append, hrun'] at hrun
    exact Except.ok.inj (hrunEnd.symm.trans hrun)
  subst hsame
  exact ⟨h', hrun', fun node hnode node' hnode' hid => hbefore.isSameAs hafter hnode' hnode hid⟩

/-- A model is added, deleted and added again by a turn that also fails in one of its calls, and
then a dataset is added and the new model is deleted. -/
theorem run_never_reuses_ids_deleted :
    let engine := Engine.ofConfig ⟨[]⟩ .default
    let position : Json := .object [("x", .ofInt 0), ("y", .ofInt 0)]
    let actions : List StoreAction := [
      .edit (.addNode .model .origin),
      .edit (.deleteNode "model-1"),
      .turn engine [] [⟨"addNode", .object [("kind", .string "model"), ("position", position)]⟩,
        ⟨"deleteNode", .object [("nodeId", .string "model-1")]⟩],
      .atomicTurn engine ["model-2"]
        [⟨"addNode", .object [("kind", .string "dataset"), ("position", position)]⟩,
          ⟨"deleteNode", .object [("nodeId", .string "model-2")]⟩],
      .edit (.addNode .model .origin)]
    ∃ h, (begin .empty).run actions = .ok h ∧
      ((begin .empty).additions actions).map (·.id) =
        ["model-1", "model-2", "dataset-3", "model-4"] ∧
      (((begin .empty).additions actions).map (·.id)).Nodup ∧
      ∃ nodes : List Node, HavePut ((begin .empty).additions actions) nodes ∧
        nodes.Pairwise fun a b => a.createdSeq < b.createdSeq := by
  intro engine position actions
  have hforward : (begin .empty).GoesForward actions := by
    refine ⟨trivial, trivial, trivial, ?_, trivial, trivial⟩
    show (engine.runTurnAtomic ⟨_, ["model-2"]⟩ _).1.success = true
    decide +kernel
  obtain ⟨h, hrun, hids, hnodes, -⟩ := run_never_reuses_ids hforward
  exact ⟨h, hrun, by decide +kernel, hids, hnodes⟩

end StoreHistory

end FineTuning

import FineTuning.Proofs.Assistant.References

/-!
# What recovery changes

An engine that recovers lost endpoints does the same as one without recovery wherever this one finds
what a call refers to. Only a connection with an end that is not found may come out otherwise, and
then it still has to fit: each end that was not lost stays what it was, and a node that stands in for
a lost one is of the kind that the handle implies. This holds of every way of recovery, because the
nodes that it proposes are checked like all others.

* `Engine.of_resolveEnd_eq_ok`: an end is what the reference stands for, or was recovered.
* `Engine.resolveConnection_withRecovery`: ends that are found are not looked for again.
* `Engine.Executed.isEndFor`: the ends of every connection that is made.
* `Engine.recovery_extends`: recovery as an extension of the engine without it.
-/

namespace FineTuning

theorem impliedKind?_name (handle : Handle) : impliedKind? handle.name = some handle.nodeKind := by
  rw [impliedKind?, Handle.ofName?_eq_some_iff.mpr rfl, Option.map_some]

/-- The ends of a well-typed edge are of the kinds that its handles imply. -/
theorem Graph.kindOf?_eq_impliedKind? {g : Graph} {source target sourceHandle targetHandle : String}
    (h : g.isCompatible source target sourceHandle targetHandle = true) :
    g.kindOf? source = impliedKind? sourceHandle ∧
      g.kindOf? target = impliedKind? targetHandle := by
  obtain ⟨-, kind, rfl, rfl, hsource, htarget⟩ := isCompatible_iff.mp h
  rw [impliedKind?_name, impliedKind?_name]
  exact ⟨hsource, htarget⟩

namespace Engine

/-- The engine without recovery. -/
def withoutRecovery (engine : Engine) : Engine :=
  { engine with recovery := none }

/-- The engine with a way of recovery. -/
def withRecovery (engine : Engine) (recovery : Recovery) : Engine :=
  { engine with recovery := some recovery }

/-- The node can be an end of a connection with this reference and handle: it exists and is of the
kind that the handle implies. If the reference stands for a node, it is this one, and otherwise it
is the one that recovery chooses. -/
structure IsEndFor (engine : Engine) (g : Graph) (created : List String)
    (reference handle id : String) : Prop where
  mem : id ∈ g.nodeIds
  kind : g.kindOf? id = impliedKind? handle
  found : ∀ known ∈ g.nodeIds, resolveReference created reference = .ok known → id = known
  recovered : ∀ lost, lost ∉ g.nodeIds → resolveReference created reference = .ok lost →
    engine.recover? g created handle = some id

variable {engine : Engine} {recovery : Recovery} {g : Graph} {created : List String}
  {c c' : Conversation Store}

/-! ## Ends -/

theorem resolveEnd_of_lost {reference handle id : String}
    (hreference : resolveReference created reference = .ok id) (hid : id ∉ g.nodeIds) :
    engine.resolveEnd g created reference handle =
      match engine.recover? g created handle with
      | some recovered => .ok recovered
      | none => .error (.nodeNotFound id) := by
  rw [resolveEnd, hreference]
  show (if g.hasNode id then _ else _) = _
  rw [if_neg (mt Graph.hasNode_iff.mp hid)]
  rfl

theorem resolveEnd_of_error {reference handle : String} {error : ToolError}
    (hreference : resolveReference created reference = .error error) :
    engine.resolveEnd g created reference handle = .error error := by
  rw [resolveEnd, hreference]
  rfl

/-- An end is what the reference stands for, or was recovered. -/
theorem of_resolveEnd_eq_ok {reference handle id : String}
    (h : engine.resolveEnd g created reference handle = .ok id) :
    ∃ known, resolveReference created reference = .ok known ∧
      (known ∈ g.nodeIds ∧ id = known ∨
        known ∉ g.nodeIds ∧ engine.recover? g created handle = some id) := by
  cases hreference : resolveReference created reference with
  | error error =>
    rw [resolveEnd_of_error hreference] at h
    cases h
  | ok known =>
    refine ⟨known, rfl, ?_⟩
    by_cases hknown : known ∈ g.nodeIds
    · rw [resolveEnd_of_found engine hreference hknown] at h
      exact .inl ⟨hknown, (Except.ok.inj h).symm⟩
    · rw [resolveEnd_of_lost hreference hknown] at h
      split at h
      · rename_i recovered hrecovered
        exact .inr ⟨hknown, hrecovered.trans (congrArg some (Except.ok.inj h))⟩
      · cases h

/-- An end that is found without recovery, or refused for another reason, is not recovered. -/
theorem resolveEnd_withRecovery (recovery : Recovery) {reference handle : String}
    (h : ∀ id, engine.withoutRecovery.resolveEnd g created reference handle ≠
      .error (.nodeNotFound id)) :
    (engine.withRecovery recovery).resolveEnd g created reference handle =
      engine.withoutRecovery.resolveEnd g created reference handle := by
  cases hreference : resolveReference created reference with
  | error error => rw [resolveEnd_of_error hreference, resolveEnd_of_error hreference]
  | ok id =>
    by_cases hid : id ∈ g.nodeIds
    · rw [resolveEnd_of_found _ hreference hid, resolveEnd_of_found _ hreference hid]
    · exact absurd (resolveEnd_of_lost hreference hid) (h id)

/-! ## Connections -/

theorem resolveConnection_of_full (engine : Engine) {request : ConnectRequest}
    (h : engine.maxEdges ≤ g.edges.length) :
    engine.resolveConnection g created request = .error (.edgeLimitReached engine.maxEdges) := by
  rw [resolveConnection, if_pos h]
  rfl

/-- Where there is room for an edge, the source is resolved before the target. -/
theorem resolveConnection_of_room (engine : Engine) {request : ConnectRequest}
    (h : ¬engine.maxEdges ≤ g.edges.length) :
    engine.resolveConnection g created request =
      engine.resolveEnd g created request.source request.sourceHandle >>= fun source =>
        engine.resolveEnd g created request.target request.targetHandle >>= fun target =>
          if g.isCompatible source target request.sourceHandle request.targetHandle then
            .ok (source, target)
          else .error (rejected source target request) := by
  rw [resolveConnection, if_neg h]
  rfl

/-- A connection whose ends are found is not changed by recovery. -/
theorem resolveConnection_withRecovery {request : ConnectRequest}
    (h : ∀ id, engine.withoutRecovery.resolveConnection g created request ≠
      .error (.nodeNotFound id)) :
    (engine.withRecovery recovery).resolveConnection g created request =
      engine.withoutRecovery.resolveConnection g created request := by
  by_cases hlimit : engine.maxEdges ≤ g.edges.length
  · rw [resolveConnection_of_full (engine.withRecovery recovery) hlimit,
      resolveConnection_of_full engine.withoutRecovery hlimit]
    rfl
  · rw [resolveConnection_of_room engine.withoutRecovery hlimit] at h ⊢
    rw [resolveConnection_of_room (engine.withRecovery recovery) hlimit]
    have hsource := resolveEnd_withRecovery recovery
      fun id hid => h id (bind_eq_error_iff.mpr (.inl hid))
    rw [hsource]
    -- The target is only resolved where the source is found.
    cases hfound : engine.withoutRecovery.resolveEnd g created request.source
        request.sourceHandle with
    | error error => rfl
    | ok source =>
      have htarget := resolveEnd_withRecovery recovery fun id hid =>
        h id (bind_eq_error_iff.mpr (.inr ⟨source, hfound, bind_eq_error_iff.mpr (.inl hid)⟩))
      rw [htarget]

/-- What fits can be an end. -/
theorem isEndFor_of_resolveEnd {reference handle id : String} (hid : id ∈ g.nodeIds)
    (hkind : g.kindOf? id = impliedKind? handle)
    (h : engine.resolveEnd g created reference handle = .ok id) :
    engine.IsEndFor g created reference handle id := by
  obtain ⟨known, hreference, hcases⟩ := of_resolveEnd_eq_ok h
  refine ⟨hid, hkind, fun other hother hresolved => ?_, fun lost hlost hresolved => ?_⟩
  · obtain rfl : known = other := Except.ok.inj (hreference.symm.trans hresolved)
    rcases hcases with ⟨-, heq⟩ | ⟨hunknown, -⟩
    · exact heq
    · exact absurd hother hunknown
  · obtain rfl : known = lost := Except.ok.inj (hreference.symm.trans hresolved)
    rcases hcases with ⟨hknown, -⟩ | ⟨-, hrecovered⟩
    · exact absurd hknown hlost
    · exact hrecovered

theorem isEndFor_of_resolveConnection {request : ConnectRequest} {source target : String}
    (h : engine.resolveConnection g created request = .ok (source, target)) :
    engine.IsEndFor g created request.source request.sourceHandle source ∧
      engine.IsEndFor g created request.target request.targetHandle target := by
  obtain ⟨hsource, htarget, hcompatible⟩ := of_resolveConnection_eq_ok h
  obtain ⟨hsourceMem, htargetMem⟩ := Graph.ends_mem_of_isCompatible hcompatible
  obtain ⟨hsourceKind, htargetKind⟩ := Graph.kindOf?_eq_impliedKind? hcompatible
  exact ⟨isEndFor_of_resolveEnd hsourceMem hsourceKind hsource,
    isEndFor_of_resolveEnd htargetMem htargetKind htarget⟩

/-- A connection is refused and nothing changes, or it joins nodes that can be its ends. -/
theorem Executed.isEndFor {request : ConnectRequest} {result : ToolResult}
    (h : Executed engine c (.addConnection request) result c') :
    (∃ error, result = .error error ∧ c' = c) ∨
      ∃ source target,
        (result = .ok (.alreadyConnected source target) ∨
          ∃ id, result = .ok (.connected id source target)) ∧
        engine.IsEndFor c.editor.graph c.created request.source request.sourceHandle source ∧
        engine.IsEndFor c.editor.graph c.created request.target request.targetHandle target := by
  cases h with
  | failed request error => exact .inl ⟨error, rfl, rfl⟩
  | alreadyConnected request source target hresolve hconnected =>
    exact .inr ⟨source, target, .inl rfl, isEndFor_of_resolveConnection hresolve⟩
  | connected request source target hresolve hnew hdone =>
    exact .inr ⟨source, target, .inr ⟨_, rfl⟩, isEndFor_of_resolveConnection hresolve⟩

/-! ## Requests and calls -/

/-- A request does the same with and without recovery, unless it is to connect nodes of which one is
not found without it. -/
theorem execute_withRecovery {request : ToolRequest}
    (h : ∀ connect id, request = .addConnection connect →
      (engine.withoutRecovery.execute c request).1 ≠ .error (.nodeNotFound id)) :
    (engine.withRecovery recovery).execute c request =
      engine.withoutRecovery.execute c request := by
  cases request with
  | updateNodeProperties update =>
    simp only [execute, updateNode, resolveUpdate, withRecovery, withoutRecovery]
  | addNode addition =>
    have hresolve : (engine.withRecovery recovery).resolveAddition = engine.resolveAddition := rfl
    have hresolve' : engine.withoutRecovery.resolveAddition = engine.resolveAddition := rfl
    simp only [execute, addNode, hresolve, hresolve']
  | deleteNode | deleteConnection => rfl
  | addConnection connect =>
    refine addConnection_congr (resolveConnection_withRecovery fun id hid => h connect id rfl ?_)
    exact congrArg Prod.fst (addConnection_of_error hid)

/-- **Recovery is a conservative extension.** Whatever the way of recovery, every request, and every
call whether or not it can be decoded, has the same result with it as without it and leaves the same
store and list of created nodes behind, unless it is to connect nodes and is answered without
recovery that a node is not found. In this case too, as with every connection, it either fails and
changes nothing, or answers that two nodes are connected that exist and are of the kinds that the
handles imply. An end whose reference stands for a node is this node; only one whose reference does
not is chosen by recovery. -/
theorem recovery_extends (engine : Engine) (recovery : Recovery) (c : Conversation Store) :
    let strict := engine.withoutRecovery
    let lenient := engine.withRecovery recovery
    (∀ request, (∀ connect id, request = .addConnection connect →
        (strict.execute c request).1 ≠ .error (.nodeNotFound id)) →
      lenient.execute c request = strict.execute c request) ∧
    (∀ call, (∀ connect id, ToolRequest.ofCall call = .ok (.addConnection connect) →
        (strict.executeCall c call).1 ≠ .error (.nodeNotFound id)) →
      lenient.executeCall c call = strict.executeCall c call) ∧
    ∀ connect,
      (∃ error, lenient.execute c (.addConnection connect) = (.error error, c)) ∨
      ∃ source target,
        ((lenient.execute c (.addConnection connect)).1 = .ok (.alreadyConnected source target) ∨
          ∃ id, (lenient.execute c (.addConnection connect)).1 =
            .ok (.connected id source target)) ∧
        lenient.IsEndFor c.editor.graph c.created connect.source connect.sourceHandle source ∧
        lenient.IsEndFor c.editor.graph c.created connect.target connect.targetHandle target := by
  intro strict lenient
  refine ⟨fun request => execute_withRecovery, fun call h => ?_, fun connect => ?_⟩
  · cases hcall : ToolRequest.ofCall call with
    | error error => simp only [executeCall, hcall]
    | ok request =>
      rw [executeCall_of_ofCall lenient c hcall, executeCall_of_ofCall strict c hcall]
      rw [executeCall_of_ofCall strict c hcall] at h
      exact execute_withRecovery fun connect id hconnect => h connect id (hconnect ▸ hcall)
  · rcases (executed lenient c (.addConnection connect)).isEndFor with
      ⟨error, hresult, hsame⟩ | hends
    · exact .inl ⟨error, Prod.ext hresult hsame⟩
    · exact .inr hends

/-- The node that was created last is gone. A call that connects other nodes is carried out as
without recovery, while one that asks for the node is given the model of the graph. -/
theorem recovery_extends_gone :
    let g : Graph := ⟨[⟨"d", .origin, 1, .initial .dataset⟩, ⟨"m", .origin, 2, .initial .model⟩], []⟩
    let c : Conversation Store := ⟨⟨g, 3, 3⟩, ["gone"]⟩
    let engine := Engine.ofConfig ⟨[]⟩ .default
    let strict := engine.withoutRecovery
    let lenient := engine.withRecovery .latestOfKind
    let call : ToolCall := ⟨"addConnection", .object [("source", .string "d"),
      ("target", .string " m "), ("sourceHandle", .string "dataset-output"),
      ("targetHandle", .string "model-input")]⟩
    let lost : ConnectRequest := ⟨"d", "NEW_NODE_ID", "dataset-output", "model-input"⟩
    (strict.executeCall c call).1 = .ok (.connected "edge-d-m" "d" "m") ∧
      lenient.executeCall c call = strict.executeCall c call ∧
      (strict.execute c (.addConnection lost)).1 = .error (.nodeNotFound "gone") ∧
      (lenient.execute c (.addConnection lost)).1 = .ok (.connected "edge-d-m" "d" "m") ∧
      lenient.IsEndFor g ["gone"] "d" "dataset-output" "d" ∧
      lenient.IsEndFor g ["gone"] "NEW_NODE_ID" "model-input" "m" := by
  intro g c engine strict lenient call lost
  have hfound : (strict.executeCall c call).1 = .ok (.connected "edge-d-m" "d" "m") := by
    decide +kernel
  have hrecovered : (lenient.execute c (.addConnection lost)).1 =
      .ok (.connected "edge-d-m" "d" "m") := by
    decide +kernel
  obtain ⟨-, hcalls, hconnections⟩ := recovery_extends engine .latestOfKind c
  have hsame : lenient.executeCall c call = strict.executeCall c call :=
    hcalls call fun connect id _ hnotFound => by
      rw [hfound] at hnotFound
      cases hnotFound
  refine ⟨hfound, hsame, by decide +kernel, hrecovered, ?_⟩
  rcases hconnections lost with ⟨error, herror⟩ | ⟨source, target, hresult, hsource, htarget⟩
  · rw [herror] at hrecovered
    cases hrecovered
  · rw [hrecovered] at hresult
    obtain h | ⟨id, h⟩ := hresult
    · cases h
    · cases h
      exact ⟨hsource, htarget⟩

end Engine

end FineTuning

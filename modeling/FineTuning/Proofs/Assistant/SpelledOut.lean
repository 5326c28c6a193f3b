import FineTuning.Proofs.Assistant.Redelivery
import FineTuning.Proofs.Json.ReplacedTexts
import FineTuning.Proofs.Text.Blank

/-!
# References that are spelled out

`NEW_NODE_ID` abbreviates the id of the node that was created last. In each call of a turn it can be
spelled out as the last id of the created nodes when the call is carried out, whether or not this
node is still there, and the turn does the same. This takes ids without blanks around them, because
references are trimmed; the ids of new nodes are such.

* `ToolRequest.ofCall_replaceAt`: to spell out references in a call does so in its request.
* `resolveReference_standFor`: a reference and its spelling stand for the same node.
* `Engine.execute_mapReferences`: requests do the same.
* `Engine.isTidy_of_mem_created`: new ids have no blanks around them.
* `Engine.runTurn_spellOut`: turns do the same.
-/

namespace FineTuning

open Json

/-! ## Calls and their requests -/

/-- Where the references to nodes stand in the arguments of a tool. -/
def Tool.references : Tool → Places
  | .updateNodeProperties | .deleteNode => ⟨["nodeId"], [0]⟩
  | .addNode => ⟨[], []⟩
  | .addConnection =>
    ⟨["sourceId", "source", "sourceNodeId", "targetId", "target", "targetNodeId"], [0, 1]⟩
  | .deleteConnection => ⟨["sourceId", "source", "targetId", "target"], [1, 2]⟩

/-- The request with its references to nodes replaced. -/
def ToolRequest.mapReferences (replace : String → String) : ToolRequest → ToolRequest
  | .updateNodeProperties request =>
    .updateNodeProperties { request with nodeId := replace request.nodeId }
  | .addNode request => .addNode request
  | .deleteNode request => .deleteNode ⟨replace request.nodeId⟩
  | .addConnection request => .addConnection
    { request with source := replace request.source, target := replace request.target }
  | .deleteConnection request => .deleteConnection
    { request with source := request.source.map replace, target := request.target.map replace }

section Decoding

variable (replace : String → String) (args : Json)

theorem UpdateRequest.decode_replaceAt :
    UpdateRequest.decode (.ofJson (args.replaceAt Tool.updateNodeProperties.references replace)) =
      (UpdateRequest.decode (.ofJson args)).map fun request =>
        { request with nodeId := replace request.nodeId } := by
  rw [Reading.ofJson_replaceAt]
  refine Fields.record_changeParts (.cons replace (.cons id (.cons id .nil))) _ ?_ ?_ ..
  · refine ⟨?_, ?_, ?_, trivial⟩
    · exact Field.follows_replaced (by decide) (by decide) (Decode.string_replaceText replace) rfl
    · exact Field.follows_kept (by decide) (by decide)
    · exact Field.follows_kept (by decide) (by decide)
  · exact fun _ _ _ => rfl

theorem AddNodeRequest.decode_replaceAt :
    AddNodeRequest.decode (.ofJson (args.replaceAt Tool.addNode.references replace)) =
      (AddNodeRequest.decode (.ofJson args)).map id := by
  rw [Reading.ofJson_replaceAt]
  refine Fields.record_changeParts (.cons id (.cons id .nil)) _ ?_ ?_ ..
  · refine ⟨?_, ?_, trivial⟩
    · exact Field.follows_kept (by decide) (by decide)
    · exact Field.follows_kept (by decide) (by decide)
  · exact fun _ _ => rfl

theorem DeleteNodeRequest.decode_replaceAt :
    DeleteNodeRequest.decode (.ofJson (args.replaceAt Tool.deleteNode.references replace)) =
      (DeleteNodeRequest.decode (.ofJson args)).map fun request => ⟨replace request.nodeId⟩ := by
  rw [Reading.ofJson_replaceAt]
  refine Fields.record_changeParts (.cons replace .nil) _ ?_ ?_ ..
  · refine ⟨?_, trivial⟩
    exact Field.follows_replaced (by decide) (by decide) (Decode.string_replaceText replace) rfl
  · exact fun _ => rfl

theorem ConnectRequest.decode_replaceAt :
    ConnectRequest.decode (.ofJson (args.replaceAt Tool.addConnection.references replace)) =
      (ConnectRequest.decode (.ofJson args)).map fun request =>
        { request with source := replace request.source, target := replace request.target } := by
  rw [Reading.ofJson_replaceAt]
  refine Fields.record_changeParts (.cons replace (.cons replace (.cons id (.cons id .nil)))) _
    ?_ ?_ ..
  · refine ⟨?_, ?_, ?_, ?_, trivial⟩
    · exact Field.follows_replaced (by decide) (by decide) (Decode.string_replaceText replace) rfl
    · exact Field.follows_replaced (by decide) (by decide) (Decode.string_replaceText replace) rfl
    · exact Field.follows_kept (by decide) (by decide)
    · exact Field.follows_kept (by decide) (by decide)
  · exact fun _ _ _ _ => rfl

theorem DisconnectRequest.decode_replaceAt :
    DisconnectRequest.decode (.ofJson (args.replaceAt Tool.deleteConnection.references replace)) =
      (DisconnectRequest.decode (.ofJson args)).map fun request =>
        { request with
          source := request.source.map replace, target := request.target.map replace } := by
  rw [Reading.ofJson_replaceAt]
  have hoptional := Decode.optional_string_replaceText replace
  refine Fields.record_changeParts
    (.cons id (.cons (·.map replace) (.cons (·.map replace) .nil))) _ ?_ ?_ ..
  · refine ⟨?_, ?_, ?_, trivial⟩
    · exact Field.follows_kept (by decide) (by decide)
    · exact Field.follows_replaced (by decide) (by decide) hoptional rfl
    · exact Field.follows_replaced (by decide) (by decide) hoptional rfl
  · exact fun _ _ _ => rfl

/-- A tool decodes arguments with replaced references to the request with replaced references. -/
theorem Tool.decodeArgs_replaceAt (tool : Tool) :
    tool.decodeArgs (.ofJson (args.replaceAt tool.references replace)) =
      (tool.decodeArgs (.ofJson args)).map (·.mapReferences replace) := by
  cases tool with
  | updateNodeProperties =>
    simp only [decodeArgs, UpdateRequest.decode_replaceAt]
    cases UpdateRequest.decode (.ofJson args) <;> rfl
  | addNode =>
    simp only [decodeArgs, AddNodeRequest.decode_replaceAt]
    cases AddNodeRequest.decode (.ofJson args) <;> rfl
  | deleteNode =>
    simp only [decodeArgs, DeleteNodeRequest.decode_replaceAt]
    cases DeleteNodeRequest.decode (.ofJson args) <;> rfl
  | addConnection =>
    simp only [decodeArgs, ConnectRequest.decode_replaceAt]
    cases ConnectRequest.decode (.ofJson args) <;> rfl
  | deleteConnection =>
    simp only [decodeArgs, DisconnectRequest.decode_replaceAt]
    cases DisconnectRequest.decode (.ofJson args) <;> rfl

/-- To replace references in a call that can be decoded does so in its request. -/
theorem ToolRequest.ofCall_replaceAt {call : ToolCall} {request : ToolRequest}
    (h : ofCall call = .ok request) :
    ofCall { call with args := call.args.replaceAt request.tool.references replace } =
      .ok (request.mapReferences replace) := by
  unfold ofCall at h ⊢
  split at h
  · rename_i tool htool
    have hdecode := mapError_eq_ok_iff.mp h
    rw [Engine.tool_of_decodeArgs hdecode]
    simp only [htool, Tool.decodeArgs_replaceAt, hdecode]
    rfl
  · cases h

end Decoding

/-! ## What references stand for -/

/-- The reference, or the id in its place if it is the name for the node that was created last. -/
def standFor (id reference : String) : String :=
  if Text.trim reference = newNodeId then id else reference

section Resolving

variable {created : List String} {id : String} (hlast : created.getLast? = some id)
  (hid : Text.IsTidy id)

theorem standFor_of_eq {reference : String} (h : Text.trim reference = newNodeId) :
    standFor id reference = id := if_pos h

theorem standFor_of_ne {reference : String} (h : Text.trim reference ≠ newNodeId) :
    standFor id reference = reference := if_neg h

include hid in
/-- What is left of a reference without its blanks is spelled out like the reference. -/
theorem nonBlank?_standFor (reference : String) :
    Text.nonBlank? (standFor id reference) =
      (Text.nonBlank? reference).map (standFor id) := by
  have hnonBlank : Text.nonBlank? id = some id :=
    Text.nonBlank?_eq_some_iff.mpr ⟨hid.isBlankText_eq, hid.trim_eq⟩
  by_cases h : Text.trim reference = newNodeId
  · have hgiven : Text.nonBlank? reference = some newNodeId := by
      refine Text.nonBlank?_eq_some_iff.mpr ⟨?_, h⟩
      by_contra hblank
      rw [Text.trim_of_isBlankText (Bool.not_eq_false _ ▸ hblank)] at h
      exact absurd h (by decide)
    have hnew : Text.trim newNodeId = newNodeId := by decide
    rw [standFor_of_eq h, hnonBlank, hgiven, Option.map_some, standFor_of_eq hnew]
  · rw [standFor_of_ne h]
    cases hgiven : Text.nonBlank? reference with
    | none => rfl
    | some trimmed =>
      obtain ⟨-, rfl⟩ := Text.nonBlank?_eq_some_iff.mp hgiven
      rw [Option.map_some, standFor_of_ne (by rwa [Text.trim_trim])]

include hlast hid

/-- A reference and its spelling stand for the same node. -/
theorem resolveReference_standFor (reference : String) :
    resolveReference created (standFor id reference) = resolveReference created reference := by
  by_cases h : Text.trim reference = newNodeId
  · have hresolved : resolveReference created reference = .ok id := by
      simp only [resolveReference, h, hlast, ↓reduceIte]
    rw [standFor_of_eq h, hresolved]
    -- The id may itself be the name for the last node, which it then is.
    simp only [resolveReference, hid.trim_eq, hlast, ite_self]
  · rw [standFor_of_ne h]

theorem resolveNode_standFor (g : Graph) (reference : String) :
    resolveNode g created (standFor id reference) = resolveNode g created reference := by
  rw [resolveNode, resolveReference_standFor hlast hid, resolveNode]

theorem Engine.resolveEnd_standFor (engine : Engine) (g : Graph) (reference handle : String) :
    engine.resolveEnd g created (standFor id reference) handle =
      engine.resolveEnd g created reference handle := by
  rw [resolveEnd, resolveReference_standFor hlast hid, resolveEnd]

theorem Engine.resolveDisconnection_standFor (request : DisconnectRequest) :
    resolveDisconnection created { request with
        source := request.source.map (standFor id), target := request.target.map (standFor id) } =
      resolveDisconnection created request := by
  have hreference : ∀ text? : Option String, (text?.map (standFor id)).bind Text.nonBlank? =
      (text?.bind Text.nonBlank?).map (standFor id) := by
    intro text?
    cases text? with
    | none => rfl
    | some text =>
      rw [Option.map_some, Option.bind_some, Option.bind_some, nonBlank?_standFor hid]
  rw [resolveDisconnection, resolveDisconnection, DisconnectRequest.reference?,
    DisconnectRequest.reference?, hreference, hreference]
  generalize request.connection.bind Text.nonBlank? = connection
  generalize request.source.bind Text.nonBlank? = source
  generalize request.target.bind Text.nonBlank? = target
  cases connection <;> cases source <;> cases target <;>
    simp only [Option.map_none, Option.map_some, resolveReference_standFor hlast hid]

end Resolving

namespace Engine

variable {σ : Type} [GraphEditor σ]

/-! ## Requests and calls -/

/-- A request does the same with its references spelled out. -/
theorem execute_mapReferences (engine : Engine) {c : Conversation σ} {id : String}
    (hlast : c.created.getLast? = some id) (hid : Text.IsTidy id) (request : ToolRequest) :
    engine.execute c (request.mapReferences (standFor id)) = engine.execute c request := by
  cases request with
  | updateNodeProperties request =>
    simp only [ToolRequest.mapReferences, execute, updateNode, resolveUpdate,
      resolveNode_standFor hlast hid]
  | addNode request => rfl
  | deleteNode request =>
    simp only [ToolRequest.mapReferences, execute, deleteNode, resolveNode_standFor hlast hid]
  | addConnection request =>
    simp only [ToolRequest.mapReferences, execute, addConnection, resolveConnection, rejected,
      resolveEnd_standFor hlast hid]
  | deleteConnection request =>
    simp only [ToolRequest.mapReferences, execute, deleteConnection,
      resolveDisconnection_standFor hlast hid]

end Engine

/-- The call with `NEW_NODE_ID` spelled out in its references to nodes, if it can be decoded and some
node was created before it. -/
def ToolCall.spellOut (created : List String) (call : ToolCall) : ToolCall :=
  match created.getLast?, ToolRequest.ofCall call with
  | some id, .ok request =>
    { call with args := call.args.replaceAt request.tool.references (standFor id) }
  | _, _ => call

theorem ToolCall.toolName_spellOut (created : List String) (call : ToolCall) :
    (call.spellOut created).toolName = call.toolName := by
  unfold spellOut
  split <;> rfl

namespace Engine

/-- A call does the same with its references spelled out. -/
theorem executeCall_spellOut {σ : Type} [GraphEditor σ] (engine : Engine) {c : Conversation σ}
    (hcreated : ∀ id ∈ c.created, Text.IsTidy id) (call : ToolCall) :
    engine.executeCall c (call.spellOut c.created) = engine.executeCall c call := by
  unfold ToolCall.spellOut
  split
  · rename_i id request hlast hcall
    have hid := hcreated id (List.mem_of_getLast? hlast)
    simp only [executeCall, ToolRequest.ofCall_replaceAt (standFor id) hcall, hcall,
      execute_mapReferences engine hlast hid]
  · rfl

end Engine

/-! ## The ids of new nodes -/

theorem Text.isBlank_of_isDigit {c : Char} (h : c.isDigit = true) : Text.isBlank c = false := by
  have hbounds : 48 ≤ c.toNat ∧ c.toNat ≤ 57 := by
    simpa [Char.isDigit, UInt32.le_iff_toNat_le] using h
  simp only [isBlank, Bool.or_eq_false_iff, Bool.and_eq_false_iff, decide_eq_false_iff_not,
    beq_eq_false_iff_ne]
  omega

/-- The id of a node that is numbered by a store has no blanks at all. -/
theorem NodeKind.isTidy_nodeId (kind : NodeKind) (number : Nat) :
    Text.IsTidy (kind.nodeId number) := by
  obtain ⟨-, hdigits, -⟩ := Text.Numeral.digits?_eq_some_iff.mp (Text.Numeral.digits?_repr number)
  have hchars : (kind.nodeId number).toList = (kind.name ++ "-").toList ++ number.repr.toList :=
    String.toList_append
  have hprefix : (kind.name ++ "-").toList.all (!Text.isBlank ·) = true := by
    cases kind <;> decide
  refine Text.isTidy_of_forall (by simp [hchars]) fun c hc => ?_
  rw [hchars, List.mem_append] at hc
  obtain hc | hc := hc
  · simpa using List.all_eq_true.mp hprefix c hc
  · exact Text.isBlank_of_isDigit (hdigits c hc)

namespace Engine

variable {engine : Engine} {c c' : Conversation Store}

theorem Executed.isTidy_of_mem_created {request : ToolRequest} {result : ToolResult}
    (h : Executed engine c request result c') (hcreated : ∀ id ∈ c.created, Text.IsTidy id) :
    ∀ id ∈ c'.created, Text.IsTidy id := by
  cases h with
  | nodeAdded request kind =>
    intro id hid
    obtain hid | hid := List.mem_append.mp hid
    · exact hcreated id hid
    · rw [List.mem_singleton.mp hid]
      exact kind.isTidy_nodeId _
  | _ => exact hcreated

theorem isTidy_of_mem_created (engine : Engine) (hcreated : ∀ id ∈ c.created, Text.IsTidy id)
    (call : ToolCall) : ∀ id ∈ (engine.executeCall c call).2.created, Text.IsTidy id := by
  unfold executeCall
  split
  · exact (executed engine c _).isTidy_of_mem_created hcreated
  · exact hcreated

end Engine

/-! ## Turns -/

/-- Calls of the same tools with the same results. -/
abbrev SameResults : List (ToolCall × ToolResult) → List (ToolCall × ToolResult) → Prop :=
  List.Forall₂ fun result' result => result'.1.toolName = result.1.toolName ∧ result'.2 = result.2

section SameResults

variable {results results' : List (ToolCall × ToolResult)} (h : SameResults results' results)
include h

theorem failedCalls_congr (first : Nat) :
    failedCalls first results' = failedCalls first results := by
  induction h generalizing first with
  | nil => rfl
  | @cons result' result _ _ hsame _ ih =>
    obtain ⟨call', outcome'⟩ := result'
    obtain ⟨call, outcome⟩ := result
    obtain ⟨hname, houtcome⟩ := hsame
    dsimp only at hname houtcome
    subst houtcome
    cases outcome' with
    | ok outcome => simp only [failedCalls, ih]
    | error error => simp only [failedCalls, ih, hname]

theorem map_result_congr : results'.map (·.2) = results.map (·.2) := by
  induction h with
  | nil => rfl
  | cons hsame _ ih => rw [List.map_cons, List.map_cons, hsame.2, ih]

/-- The report of a turn shows of the calls only the tools that they name. -/
theorem TurnReport.ofResults_congr (created : List String) :
    ofResults results' created = ofResults results created := by
  have hcount : results'.countP (·.2.isOk) = results.countP (·.2.isOk) := by
    have hmap := congrArg (List.countP Except.isOk) (map_result_congr h)
    rwa [List.countP_map, List.countP_map] at hmap
  have hreplies : results'.map (fun result => ToolReply.ofResult result.2) =
      results.map fun result => ToolReply.ofResult result.2 := by
    have hmap := congrArg (List.map ToolReply.ofResult) (map_result_congr h)
    rwa [List.map_map, List.map_map] at hmap
  rw [ofResults, ofResults, failedCalls_congr h, hcount, hreplies]

end SameResults

namespace Engine

/-- The calls of a turn, with `NEW_NODE_ID` spelled out in each one as the node that was created last
when it is carried out. -/
def spellOut {σ : Type} [GraphEditor σ] (engine : Engine) (c : Conversation σ) :
    List ToolCall → List ToolCall
  | [] => []
  | call :: rest => call.spellOut c.created :: engine.spellOut (engine.executeCall c call).2 rest

/-- The calls of a turn have the same results with their references spelled out. -/
theorem executeAll_spellOut (engine : Engine) (calls : List ToolCall) (c : Conversation Store)
    (hcreated : ∀ id ∈ c.created, Text.IsTidy id) :
    (engine.executeAll c (engine.spellOut c calls)).2 = (engine.executeAll c calls).2 ∧
      SameResults (engine.executeAll c (engine.spellOut c calls)).1
        (engine.executeAll c calls).1 := by
  induction calls generalizing c with
  | nil => exact ⟨rfl, .nil⟩
  | cons call rest ih =>
    obtain ⟨hend, hresults⟩ := ih _ (isTidy_of_mem_created engine hcreated call)
    rw [spellOut, executeAll_cons, executeAll_cons, executeCall_spellOut engine hcreated]
    exact ⟨hend, .cons ⟨call.toolName_spellOut c.created, rfl⟩ hresults⟩

/-- **`NEW_NODE_ID` is an abbreviation.** Let the ids of the nodes created before a turn not be
blank and have no blanks at their ends. In every call of the turn that can be decoded, spell out each
reference to the node that was created last, blanks around it or not, as the last id of the created
nodes when the call is carried out, if there are any by then. The turn then ends with the same store
and the same report, also where the node that is meant was deleted in between. -/
theorem runTurn_spellOut (engine : Engine) (c : Conversation Store) (calls : List ToolCall)
    (hcreated : ∀ id ∈ c.created, Text.IsTidy id) :
    engine.runTurn c (engine.spellOut c calls) = engine.runTurn c calls := by
  obtain ⟨hend, hresults⟩ := executeAll_spellOut engine calls c hcreated
  simp only [runTurn, hend, TurnReport.ofResults_congr hresults]

/-- A model is created and deleted again. Later in the turn the name still stands for it, so that a
connection to it is recovered as one to the only model left, just as with its id. -/
theorem runTurn_spellOut_deleted :
    let engine := Engine.ofConfig ⟨[]⟩ .default
    let c : Conversation Store := ⟨⟨⟨[⟨"d", .origin, 1, .initial .dataset⟩,
      ⟨"m", .origin, 2, .initial .model⟩], []⟩, 3, 3⟩, ["gone"]⟩
    let add : ToolCall := ⟨"addNode", .object [("kind", .string "model"),
      ("position", .object [("x", .ofNat 0), ("y", .ofNat 0)])]⟩
    let delete reference : ToolCall := ⟨"deleteNode", .array [.string reference]⟩
    let feed target : ToolCall := ⟨"addConnection", .object [("source", .string "d"),
      ("target", .string target), ("sourceHandle", .string "dataset-output"),
      ("targetHandle", .string "model-input")]⟩
    let calls := [add, delete " NEW_NODE_ID", feed "NEW_NODE_ID"]
    (∀ id ∈ c.created, Text.IsTidy id) ∧
      engine.spellOut c calls = [add, delete "model-3", feed "model-3"] ∧
      engine.runTurn c (engine.spellOut c calls) = engine.runTurn c calls ∧
      (engine.runTurn c calls).2.graph.edges =
        [⟨"edge-d-m", "d", "m", "dataset-output", "model-input"⟩] := by
  intro engine c add delete feed calls
  have hcreated : ∀ id ∈ c.created, Text.IsTidy id := by decide
  have hadded : (engine.executeCall c add).2.created = ["gone", "model-3"] := by decide +kernel
  have hdeleted := (created_executeCall engine (engine.executeCall c add).2
    (show (delete " NEW_NODE_ID").toolName ≠ Tool.addNode.name by decide)).trans hadded
  have hspelled : engine.spellOut c calls = [add, delete "model-3", feed "model-3"] := by
    rw [spellOut, spellOut, spellOut, spellOut, hdeleted, hadded]
    rfl
  exact ⟨hcreated, hspelled, runTurn_spellOut engine c calls hcreated, by decide +kernel⟩

end Engine

end FineTuning

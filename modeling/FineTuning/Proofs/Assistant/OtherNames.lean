import FineTuning.Proofs.Assistant.TrainingProperties
import FineTuning.Proofs.Json.FieldNames
import Mathlib.Logic.Relation

/-!
# Arguments under other names

Assistants do not always remember the right name of an argument or a property, so most of them have
several. These names can be exchanged in every call that is understood, and the call does the same.
Properties are kept as they are written until the node is known, so there the new name stays, but
the patch is the same. To give something under two of its names is an error.

* `Tool.byNames_decodeArgs`: which names each tool understands.
* `NodePatch.ofProperties_of_sameUnder`, `NodePatch.exists_error_of_twice`: patches are made by
  names.
* `ToolCall.Respells`: an argument or a property is written under another name.
* `ToolCall.Respells.exists_ofCall`: the request is the same but for the keys of the properties.
* `Engine.executeCall_respelled`: so calls do the same, and names given twice are refused.
-/

namespace FineTuning

open Json

/-! ## Names -/

/-- The names of each argument of a tool. -/
def Tool.argumentNames : Tool → List (List String)
  | .updateNodeProperties => [["nodeId"], ["kind", "nodeType", "type"], ["properties"]]
  | .addNode => [["kind", "nodeType", "type"], ["position"]]
  | .deleteNode => [["nodeId"]]
  | .addConnection =>
    [["sourceId", "source", "sourceNodeId"], ["targetId", "target", "targetNodeId"],
      ["sourceHandle"], ["targetHandle"]]
  | .deleteConnection =>
    [["connectionId", "edgeId"], ["sourceId", "source"], ["targetId", "target"]]

/-- The names of each property of a node of a kind. -/
def NodeKind.propertyNames : NodeKind → List (List String)
  | .training => TrainingProperties.names
  | .model => [["selectedModelId", "modelId", "model", "modelName", "selectedModel"]]
  | .dataset => [["status"], ["activeTab"]]

/-- The names of each property of any node. -/
def allPropertyNames : List (List String) :=
  NodeKind.all.flatMap NodeKind.propertyNames

theorem Tool.nodup_argumentNames (tool : Tool) : tool.argumentNames.flatten.Nodup := by
  cases tool <;> decide

theorem nodup_allPropertyNames : allPropertyNames.flatten.Nodup := by decide

theorem NodeKind.propertyNames_subset (kind : NodeKind) :
    kind.propertyNames ⊆ allPropertyNames := by
  have hkind : kind ∈ all := by cases kind <;> decide
  exact fun names hnames => List.mem_flatMap.mpr ⟨kind, hkind, hnames⟩

/-- **The arguments of a tool are read under these names.** -/
theorem Tool.byNames_decodeArgs (tool : Tool) :
    Decode.ByNames tool.argumentNames tool.decodeArgs := by
  cases tool with
  | updateNodeProperties =>
    have hdecode : Decode.ByNames Tool.updateNodeProperties.argumentNames UpdateRequest.decode :=
      Fields.byNames_record (by rfl) (nodup_argumentNames _) ..
    exact hdecode.map ToolRequest.updateNodeProperties
  | addNode =>
    have hdecode : Decode.ByNames Tool.addNode.argumentNames AddNodeRequest.decode :=
      Fields.byNames_record (by rfl) (nodup_argumentNames _) ..
    exact hdecode.map ToolRequest.addNode
  | deleteNode =>
    have hdecode : Decode.ByNames Tool.deleteNode.argumentNames DeleteNodeRequest.decode :=
      Fields.byNames_record (by rfl) (nodup_argumentNames _) ..
    exact hdecode.map ToolRequest.deleteNode
  | addConnection =>
    have hdecode : Decode.ByNames Tool.addConnection.argumentNames ConnectRequest.decode :=
      Fields.byNames_record (by rfl) (nodup_argumentNames _) ..
    exact hdecode.map ToolRequest.addConnection
  | deleteConnection =>
    have hdecode : Decode.ByNames Tool.deleteConnection.argumentNames DisconnectRequest.decode :=
      Fields.byNames_record (by rfl) (nodup_argumentNames _) ..
    exact hdecode.map ToolRequest.deleteConnection

theorem Tool.ofName?_name (tool : Tool) : ofName? tool.name = some tool := by
  cases tool <;> decide

/-! ## Patches -/

namespace NodePatch

variable {kind : NodeKind} {catalog : Catalog} {properties properties' : List (String × Json)}

/-- The patch is made from what is decoded of the properties, which is read under their names. -/
theorem exists_decoder (kind : NodeKind) (catalog : Catalog) :
    ∃ (α : Type) (decode : Decoder α) (make : α → Except ToolError NodePatch),
      Decode.ByNames kind.propertyNames decode ∧ ∀ properties,
        ofAnyProperties kind properties catalog = decodeProperties decode properties >>= make := by
  cases kind with
  | training =>
    have hdecode : Decode.ByNames NodeKind.training.propertyNames TrainingProperties.decode :=
      Fields.byNames_record (by rfl) (by decide) ..
    exact ⟨_, _, _, hdecode, fun properties => map_bind_eq⟩
  | model =>
    have hdecode : Decode.ByNames NodeKind.model.propertyNames ModelProperties.decode :=
      Fields.byNames_record (by rfl) (by decide) ..
    exact ⟨_, _, _, hdecode, fun properties => map_bind_eq⟩
  | dataset =>
    have hdecode : Decode.ByNames NodeKind.dataset.propertyNames DatasetProperties.decode :=
      Fields.byNames_record (by rfl) (by decide) ..
    exact ⟨_, _, _, hdecode, fun properties => map_bind_eq⟩

/-- **Patches are made by names.** -/
theorem ofProperties_of_sameUnder {patch : NodePatch}
    (hsame : SameUnder kind.propertyNames properties properties')
    (h : ofProperties kind properties catalog = .ok patch) :
    ofProperties kind properties' catalog = .ok patch := by
  obtain ⟨α, decode, make, hnames, hmake⟩ := exists_decoder kind catalog
  obtain ⟨hany, hempty⟩ := of_ofProperties_eq_ok h
  rw [hmake] at hany
  obtain ⟨given, hgiven, hmade⟩ := bind_eq_ok_iff.mp hany
  have hgiven' : decodeProperties decode properties' = .ok given :=
    mapError_eq_ok_iff.mpr (hnames.same hsame (mapError_eq_ok_iff.mp hgiven))
  have hany' : ofAnyProperties kind properties' catalog = .ok patch := by
    rw [hmake]
    exact bind_eq_ok_iff.mpr ⟨given, hgiven', hmade⟩
  refine bind_eq_ok_iff.mpr ⟨patch, hany', ?_⟩
  simp only [hempty, Bool.false_eq_true, ↓reduceIte]
  rfl

/-- A property that is given twice is an error. -/
theorem exists_error_of_twice {names : List String} (hnames : names ∈ kind.propertyNames)
    (htwice : 1 < (valuesUnder names properties).length) (catalog : Catalog) :
    ∃ cause, ofProperties kind properties catalog =
      .error (.invalidArguments .updateNodeProperties cause) := by
  obtain ⟨α, decode, make, hbyNames, hmake⟩ := exists_decoder kind catalog
  obtain ⟨cause, hcause⟩ := hbyNames.exists_error hnames htwice
  refine ⟨cause, ?_⟩
  rw [ofProperties, hmake, decodeProperties, hcause]
  rfl

end NodePatch

/-! ## Requests -/

/-- The properties of the request make a patch for nodes of the kind that it names. -/
def ToolRequest.GivesPatch (catalog : Catalog) : ToolRequest → Prop
  | .updateNodeProperties request => ∀ kind, NodeKind.parse? request.kind = some kind →
    ∃ patch, NodePatch.ofProperties kind request.properties catalog = .ok patch
  | _ => True

/-- The requests are the same, but for the names of properties, which make the same patch. -/
inductive ToolRequest.AgreesWith (catalog : Catalog) : ToolRequest → ToolRequest → Prop
  | refl (request : ToolRequest) : AgreesWith catalog request request
  | update {nodeId kindName : String} {properties properties' : List (String × Json)}
      (hnames : Relation.ReflTransGen (Respells allPropertyNames) properties properties')
      (hpatch : ∀ kind, NodeKind.parse? kindName = some kind →
        ∃ patch, NodePatch.ofProperties kind properties catalog = .ok patch ∧
          NodePatch.ofProperties kind properties' catalog = .ok patch) :
      AgreesWith catalog (.updateNodeProperties ⟨nodeId, kindName, properties⟩)
        (.updateNodeProperties ⟨nodeId, kindName, properties'⟩)

namespace ToolRequest.AgreesWith

variable {catalog : Catalog} {request request' request'' : ToolRequest}

theorem givesPatch (h : request.AgreesWith catalog request') (hpatch : request.GivesPatch catalog) :
    request'.GivesPatch catalog := by
  cases h with
  | refl => exact hpatch
  | update _ hsame =>
    intro kind hkind
    obtain ⟨patch, -, hmade⟩ := hsame kind hkind
    exact ⟨patch, hmade⟩

theorem trans (h : request.AgreesWith catalog request')
    (h' : request'.AgreesWith catalog request'') : request.AgreesWith catalog request'' := by
  cases h with
  | refl => exact h'
  | update hnames hpatch =>
    cases h' with
    | refl => exact .update hnames hpatch
    | update hnames' hpatch' =>
      refine .update (hnames.trans hnames') fun kind hkind => ?_
      obtain ⟨patch, hfirst, hbetween⟩ := hpatch kind hkind
      obtain ⟨patch', hbetween', hlast⟩ := hpatch' kind hkind
      rw [hbetween] at hbetween'
      cases hbetween'
      exact ⟨patch, hfirst, hlast⟩

/-- Properties that are respelled make the same patch. -/
theorem of_respells {nodeId kindName : String} {properties properties' : List (String × Json)}
    (h : Respells allPropertyNames properties properties')
    (hpatch : GivesPatch catalog (.updateNodeProperties ⟨nodeId, kindName, properties⟩)) :
    AgreesWith catalog (.updateNodeProperties ⟨nodeId, kindName, properties⟩)
      (.updateNodeProperties ⟨nodeId, kindName, properties'⟩) := by
  refine .update (.single h) fun kind hkind => ?_
  obtain ⟨patch, hmade⟩ := hpatch kind hkind
  have hsame : SameUnder kind.propertyNames properties properties' := fun names hnames =>
    h.sameUnder nodup_allPropertyNames names (kind.propertyNames_subset hnames)
  exact ⟨patch, hmade, NodePatch.ofProperties_of_sameUnder hsame hmade⟩

/-- **Requests that agree do the same** in every graph under edit. -/
theorem execute_eq {σ : Type} [GraphEditor σ] {engine : Engine}
    (h : request.AgreesWith engine.catalog request') (c : Conversation σ) :
    engine.execute c request' = engine.execute c request := by
  cases h with
  | refl => rfl
  | @update nodeId kindName properties properties' _ hpatch =>
    have hresolve : ∀ g created, engine.resolveUpdate g created ⟨nodeId, kindName, properties'⟩ =
        engine.resolveUpdate g created ⟨nodeId, kindName, properties⟩ := by
      intro g created
      unfold Engine.resolveUpdate
      cases hkind : NodeKind.parse? kindName with
      | none => simp only [resolveKind, hkind, bind, Except.bind]
      | some kind =>
        obtain ⟨patch, hmade, hmade'⟩ := hpatch kind hkind
        simp only [resolveKind, hkind, bind, Except.bind, hmade, hmade']
    simp only [Engine.execute, Engine.updateNode, hresolve]

end ToolRequest.AgreesWith

/-! ## Calls -/

/-- An argument of the call is written under another name, or a property in the properties of an
update. The new entry may stand anywhere. No object has a key twice. -/
inductive ToolCall.Respells : ToolCall → ToolCall → Prop
  | argument {tool : Tool} {fields fields' : List (String × Json)}
      (h : Json.Respells tool.argumentNames fields fields') :
      Respells ⟨tool.name, .object fields⟩ ⟨tool.name, .object fields'⟩
  | property {fields fields' properties properties' : List (String × Json)}
      (hkeys : (properties.map (·.1)).Nodup) (hkeys' : (properties'.map (·.1)).Nodup)
      (hproperties : Json.Respells allPropertyNames properties properties')
      (h : Replaces ("properties", .object properties) ("properties", .object properties')
        fields fields') :
      Respells ⟨Tool.updateNodeProperties.name, .object fields⟩
        ⟨Tool.updateNodeProperties.name, .object fields'⟩

/-- What a tool decodes is the request of the call. -/
theorem ToolRequest.ofCall_eq_ok_iff {tool : Tool} {args : Json} {request : ToolRequest} :
    ofCall ⟨tool.name, args⟩ = .ok request ↔ tool.decodeArgs (.ofJson args) = .ok request := by
  simp only [ofCall, Tool.ofName?_name, mapError_eq_ok_iff]

/-- The properties of an update are kept with their fields in order. -/
theorem UpdateRequest.decode_of_replaces {fields fields' : List (String × Json)}
    {properties properties' : List (String × Json)}
    (h : Replaces ("properties", .object properties) ("properties", .object properties')
      fields fields') {request : UpdateRequest}
    (hdecode : decode (.ofJson (.object fields)) = .ok request) :
    request.properties = sortFields (sortedValues properties) ∧
      decode (.ofJson (.object fields')) =
        .ok { request with properties := sortFields (sortedValues properties') } := by
  rw [decode, Fields.record_ofJson_object (by decide)] at hdecode ⊢
  obtain ⟨nodeId, hnodeId, kind, hkind, kept, hkept, rfl⟩ := hdecode
  have hnot : "properties" ∉ (Field.required "nodeId" Decode.string).allNames ∧
      "properties" ∉ kindField.allNames := by
    decide
  have hnodeId' := hnodeId.of_perm (h.perm_valuesUnder hnot.1 hnot.1)
  have hkind' := hkind.of_perm (h.perm_valuesUnder hnot.2 hnot.2)
  obtain ⟨others, hfields, hfields'⟩ := h
  have hbefore := perm_valuesUnder hfields ["properties"]
  have hafter := perm_valuesUnder hfields' ["properties"]
  rw [valuesUnder_cons_of_mem List.mem_cons_self] at hbefore hafter
  -- The properties are the only value under their name, so they can be exchanged.
  obtain ⟨hnone, hdecoded⟩ := Field.isMadeOf_cons_iff.mp (hkept.of_perm hbefore)
  have hkept' : (Field.withDefault "properties" Decode.fields []).IsMadeOf
      (valuesUnder ["properties"] fields') (sortFields (sortedValues properties')) :=
    (Field.isMadeOf_cons_iff.mpr ⟨hnone, Decode.fields_ofJson properties'⟩).of_perm hafter.symm
  refine ⟨Except.ok.inj (hdecoded.symm.trans (Decode.fields_ofJson properties)), ?_⟩
  exact ⟨nodeId, hnodeId', kind, hkind', _, hkept', rfl⟩

namespace ToolCall

variable {catalog : Catalog} {call call' : ToolCall} {request : ToolRequest}

/-- **The request of a call that is respelled** is the same but for the names of properties. -/
theorem Respells.exists_ofCall (h : call.Respells call')
    (hdecodes : ToolRequest.ofCall call = .ok request) (hpatch : request.GivesPatch catalog) :
    ∃ request', ToolRequest.ofCall call' = .ok request' ∧ request.AgreesWith catalog request' := by
  cases h with
  | @argument tool fields fields' h =>
    have hsame := h.sameUnder tool.nodup_argumentNames
    have hdecodes' := tool.byNames_decodeArgs.same hsame (ToolRequest.ofCall_eq_ok_iff.mp hdecodes)
    exact ⟨request, ToolRequest.ofCall_eq_ok_iff.mpr hdecodes', .refl request⟩
  | @property fields fields' properties properties' hkeys hkeys' hproperties h =>
    obtain ⟨⟨nodeId, kindName, kept⟩, hdecoded, rfl⟩ :=
      map_eq_ok_iff.mp (ToolRequest.ofCall_eq_ok_iff.mp hdecodes)
    obtain ⟨rfl, hdecoded'⟩ := UpdateRequest.decode_of_replaces h hdecoded
    have hrequest' : Tool.updateNodeProperties.decodeArgs (.ofJson (.object fields')) =
        .ok (.updateNodeProperties ⟨nodeId, kindName, sortFields (sortedValues properties')⟩) :=
      map_eq_ok_iff.mpr ⟨_, hdecoded', rfl⟩
    exact ⟨_, ToolRequest.ofCall_eq_ok_iff.mpr hrequest',
      .of_respells (hproperties.sortFields hkeys hkeys') hpatch⟩

/-- So it is after any number of respellings. -/
theorem exists_ofCall_of_respelled (h : Relation.ReflTransGen Respells call call')
    (hdecodes : ToolRequest.ofCall call = .ok request) (hpatch : request.GivesPatch catalog) :
    ∃ request', ToolRequest.ofCall call' = .ok request' ∧ request.AgreesWith catalog request' := by
  induction h with
  | refl => exact ⟨request, hdecodes, .refl request⟩
  | tail _ hstep ih =>
    obtain ⟨between, hbetween, hagrees⟩ := ih
    obtain ⟨request', hdecodes', hagrees'⟩ :=
      hstep.exists_ofCall hbetween (hagrees.givesPatch hpatch)
    exact ⟨request', hdecodes', hagrees.trans hagrees'⟩

/-- An argument that is given twice is an error. -/
theorem exists_error_of_twice {tool : Tool} {names : List String}
    (hnames : names ∈ tool.argumentNames) {fields : List (String × Json)}
    (htwice : 1 < (valuesUnder names fields).length) :
    ∃ cause, ToolRequest.ofCall ⟨tool.name, .object fields⟩ =
      .error (.invalidArguments tool cause) := by
  obtain ⟨cause, hcause⟩ := tool.byNames_decodeArgs.exists_error hnames htwice
  refine ⟨cause, ?_⟩
  simp only [ToolRequest.ofCall, Tool.ofName?_name, hcause]
  rfl

end ToolCall

/-- **Names can be exchanged.** If a call is understood, and for an update its properties make a
patch, then the call with arguments and properties under other names of theirs is understood in the
same way, but for the names of the properties, which make the same patch. It comes out the same and
leaves the same behind in every graph under edit and every conversation. A call with an argument
under two of its names is refused because of its arguments and changes nothing, and properties with
one of them under two names make no patch for the same reason. -/
theorem Engine.executeCall_respelled (engine : Engine) :
    (∀ call call' request, ToolRequest.ofCall call = .ok request →
      request.GivesPatch engine.catalog → Relation.ReflTransGen ToolCall.Respells call call' →
      (∃ request', ToolRequest.ofCall call' = .ok request' ∧
        request.AgreesWith engine.catalog request') ∧
      ∀ (σ : Type) [GraphEditor σ] (c : Conversation σ),
        engine.executeCall c call' = engine.executeCall c call) ∧
    (∀ tool : Tool, ∀ names ∈ tool.argumentNames, ∀ fields,
      1 < (valuesUnder names fields).length →
      ∃ cause, ∀ (σ : Type) [GraphEditor σ] (c : Conversation σ),
        engine.executeCall c ⟨tool.name, .object fields⟩ =
          (.error (.invalidArguments tool cause), c)) ∧
    ∀ kind : NodeKind, ∀ names ∈ kind.propertyNames, ∀ properties,
      1 < (valuesUnder names properties).length →
      ∃ cause, NodePatch.ofProperties kind properties engine.catalog =
        .error (.invalidArguments .updateNodeProperties cause) := by
  refine ⟨fun call call' request hdecodes hpatch hrespelled => ?_,
    fun tool names hnames fields htwice => ?_, fun kind names hnames properties htwice =>
      NodePatch.exists_error_of_twice hnames htwice engine.catalog⟩
  · obtain ⟨request', hdecodes', hagrees⟩ :=
      ToolCall.exists_ofCall_of_respelled hrespelled hdecodes hpatch
    refine ⟨⟨request', hdecodes', hagrees⟩, fun σ _ c => ?_⟩
    simp only [executeCall, hdecodes, hdecodes', hagrees.execute_eq]
  · obtain ⟨cause, hcause⟩ := ToolCall.exists_error_of_twice hnames htwice
    exact ⟨cause, fun σ _ c => by simp only [executeCall, hcause]⟩

/-- An update whose kind and properties are respelled one after the other, with the new kind at
another place; a kind under two names, and a property under two names. -/
theorem Engine.executeCall_respelled_update :
    let engine := Engine.ofConfig ⟨[]⟩ .default
    let update (fields : List (String × Json)) : ToolCall :=
      ⟨"updateNodeProperties", .object fields⟩
    let written : ToolCall := update [("nodeId", .string "t"),
      ("properties", .object [("batch_size", .string "4"), ("train_quant", .string "INT8")]),
      ("type", .string "training")]
    let respelled : ToolCall := update [("kind", .string "training"), ("nodeId", .string "t"),
      ("properties", .object [("batchSize", .string "4"), ("quantization", .string "INT8")])]
    let twice : ToolCall := update [("kind", .string "training"), ("nodeId", .string "t"),
      ("nodeType", .string "training")]
    let c : Conversation Store := ⟨⟨⟨[⟨"t", .origin, 1, .initial .training⟩], []⟩, 2, 2⟩, []⟩
    engine.executeCall c respelled = engine.executeCall c written ∧
      (engine.executeCall c written).1 = .ok (.nodeUpdated "t") ∧
      (∃ cause, engine.executeCall c twice =
        (.error (.invalidArguments .updateNodeProperties cause), c)) ∧
      ∃ cause, NodePatch.ofProperties .training
          [("epochs", .ofInt 3), ("quantization", .null), ("trainQuant", .null)] engine.catalog =
        .error (.invalidArguments .updateNodeProperties cause) := by
  intro engine update written respelled twice c
  obtain ⟨hsame, hargument, hproperty⟩ := executeCall_respelled engine
  have hlast : ∀ (first second last : String × Json),
      [first, second, last].Perm [last, first, second] := fun first second last =>
    List.perm_append_singleton last [first, second]
  have hkind : Respells Tool.updateNodeProperties.argumentNames
      [("nodeId", .string "t"),
        ("properties", .object [("batch_size", .string "4"), ("train_quant", .string "INT8")]),
        ("type", .string "training")]
      [("kind", .string "training"), ("nodeId", .string "t"),
        ("properties", .object [("batch_size", .string "4"), ("train_quant", .string "INT8")])] :=
    ⟨_, List.mem_of_mem_tail List.mem_cons_self, "type", by decide, "kind", by decide, _, _,
      hlast _ _ _, .refl _⟩
  have hbatch : Respells allPropertyNames
      [("batch_size", .string "4"), ("train_quant", .string "INT8")]
      [("batchSize", .string "4"), ("train_quant", .string "INT8")] :=
    ⟨["batchSize", "batch_size"], by decide, "batch_size", by decide, "batchSize", by decide, _, _,
      .refl _, .refl _⟩
  have hquantization : Respells allPropertyNames
      [("batchSize", .string "4"), ("train_quant", .string "INT8")]
      [("batchSize", .string "4"), ("quantization", .string "INT8")] :=
    ⟨["quantization", "trainQuant", "train_quant"], by decide, "train_quant", by decide,
      "quantization", by decide, _, _, .swap .., .swap ..⟩
  have hrespelled : Relation.ReflTransGen ToolCall.Respells written respelled :=
    ((Relation.ReflTransGen.single (.argument hkind)).tail
      (.property (by decide) (by decide) hbatch ⟨_, hlast _ _ _, hlast _ _ _⟩)).tail
      (.property (by decide) (by decide) hquantization ⟨_, hlast _ _ _, hlast _ _ _⟩)
  have hdecodes : ToolRequest.ofCall written = .ok (.updateNodeProperties ⟨"t", "training",
      [("batch_size", .string "4"), ("train_quant", .string "INT8")]⟩) := rfl
  refine ⟨(hsame _ _ _ hdecodes ?_ hrespelled).2 Store c, by rfl, ?_, ?_⟩
  · intro kind hkind
    cases hkind
    exact ⟨_, rfl⟩
  · obtain ⟨cause, htwice⟩ := hargument .updateNodeProperties ["kind", "nodeType", "type"]
      (by decide) [("kind", .string "training"), ("nodeId", .string "t"),
        ("nodeType", .string "training")] (by decide)
    exact ⟨cause, htwice Store c⟩
  · exact hproperty .training ["quantization", "trainQuant", "train_quant"] (by decide) _
      (by decide)

end FineTuning

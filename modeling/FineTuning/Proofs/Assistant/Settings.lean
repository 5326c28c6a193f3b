import FineTuning.Proofs.Assistant.AtomicTurns
import FineTuning.Proofs.Assistant.Reach
import FineTuning.Proofs.Assistant.TrainingProperties
import FineTuning.Proofs.Job.Settings

/-!
# Settings that assistants write

Assistants give settings as numbers, as texts with blanks around them, and in any case;
compilation takes them only in their exact form. The checks of an update bring them into this
form, so calls never give a training node settings that compilation would refuse, nor leave a
model node without the model that was chosen on it.

* `TrainingPatch.isSound_of_ofProperties`: what the properties of an update set is sound.
* `NodePatch.exists_entry_of_ofProperties`: an update of a model node chooses a model.
* `Engine.hasSoundSettings_executeCall`, `Engine.hasSelection_executeAll`: what calls keep.
* `Engine.turns_keep_settings`: turns of any length keep both, and compilation has nothing to say
  about settings.
-/

namespace FineTuning

/-! ## Settings of training nodes -/

theorem TrainingData.isSound_initial : TrainingData.initial.IsSound :=
  ⟨by decide, by decide, by decide, by decide⟩

theorem NodeData.hasSoundSettings_initial (kind : NodeKind) :
    (NodeData.initial kind).HasSoundSettings := by
  intro training htraining
  cases kind <;> cases htraining
  exact TrainingData.isSound_initial

theorem bounds_of_checkEpochs {value : Numeric} {epochs : UInt32}
    (h : checkEpochs value = .ok epochs) : 1 ≤ epochs ∧ epochs ≤ 5 :=
  (checkEpochs_eq_ok_iff.mp h).2

theorem eq_of_checkBatchSize {value : Numeric} {batchSize : String}
    (h : checkBatchSize value = .ok batchSize) : batchSize = TrainingData.defaultBatchSize :=
  (checkBatchSize_eq_ok_iff.mp h).2

theorem mem_names_of_checkQuantization {property : CheckedProperty} {value quantization : String}
    (h : checkQuantization property value = .ok quantization) :
    quantization = "int4" ∨ quantization = "int8" := by
  obtain ⟨parsed, rfl, -⟩ := checkQuantization_eq_ok_iff.mp h
  cases parsed
  · exact .inl rfl
  · exact .inr rfl

/-- What the patch sets are settings of a job. -/
structure TrainingPatch.IsSound (patch : TrainingPatch) : Prop where
  epochs : ∀ epochs ∈ patch.epochs, 1 ≤ epochs ∧ epochs ≤ 5
  batchSize : ∀ batchSize ∈ patch.batchSize, Text.Numeral.IsUInt32 (Text.trim batchSize)
  quantization : ∀ name ∈ patch.quantization, name = "int4" ∨ name = "int8"
  downloadQuant : ∀ name ∈ patch.downloadQuant, name = "int4" ∨ name = "int8"

/-- **Accepted settings are sound,** whatever properties they were made of. -/
theorem TrainingPatch.isSound_of_ofProperties {properties : List (String × Json)}
    {patch : TrainingPatch} (h : ofProperties properties = .ok patch) : patch.IsSound := by
  obtain ⟨given, -, h⟩ := bind_eq_ok_iff.mp h
  obtain ⟨epochs, hepochs, h⟩ := bind_eq_ok_iff.mp h
  obtain ⟨batchSize, hbatch, h⟩ := bind_eq_ok_iff.mp h
  obtain ⟨quantization, hquantization, h⟩ := bind_eq_ok_iff.mp h
  obtain ⟨downloadQuant, hdownload, h⟩ := bind_eq_ok_iff.mp h
  cases h
  refine ⟨fun n hn => ?_, fun s hs => ?_, fun s hs => ?_, fun s hs => ?_⟩
  · obtain ⟨value, -, hvalue⟩ := exists_of_checkOptional hepochs n hn
    exact bounds_of_checkEpochs hvalue
  · obtain ⟨value, -, hvalue⟩ := exists_of_checkOptional hbatch s hs
    rw [eq_of_checkBatchSize hvalue]
    decide
  · obtain ⟨value, -, hvalue⟩ := exists_of_checkOptional hquantization s hs
    exact mem_names_of_checkQuantization hvalue
  · obtain ⟨value, -, hvalue⟩ := exists_of_checkOptional hdownload s hs
    exact mem_names_of_checkQuantization hvalue

/-- A value that is set or kept has what both of them have. -/
theorem getD_keeps {α : Type} {P : α → Prop} {set? : Option α} {kept : α}
    (hset : ∀ value ∈ set?, P value) (hkept : P kept) : P (set?.getD kept) := by
  cases set? with
  | none => exact hkept
  | some value => exact hset value rfl

theorem TrainingPatch.IsSound.apply {patch : TrainingPatch} {data : TrainingData}
    (h : patch.IsSound) (hdata : data.IsSound) : (patch.apply data).IsSound where
  epochs := getD_keeps (P := fun n => 1 ≤ n ∧ n ≤ 5) h.epochs hdata.epochs
  batchSize := getD_keeps h.batchSize hdata.batchSize
  quantization := getD_keeps h.quantization hdata.quantization
  downloadQuant := getD_keeps h.downloadQuant hdata.downloadQuant

/-! ## Models of model nodes -/

/-- All entries of the catalog have an id. -/
def Catalog.HasIds (catalog : Catalog) : Prop :=
  ∀ entry ∈ catalog.entries, Text.isBlankText entry.id = false

/-- The node with the id is a model node, and a model is chosen on it. -/
def Graph.HasSelection (g : Graph) (id : String) : Prop :=
  ∃ node data, g.node? id = some node ∧ node.data = .model data ∧ data.HasSelection

namespace NodePatch

variable {properties : List (String × Json)} {catalog : Catalog} {kind : NodeKind}
  {patch : NodePatch} {data data' : NodeData}

/-- An update of a model node chooses a model of the catalog. -/
theorem exists_entry_of_ofProperties (h : ofProperties .model properties catalog = .ok patch) :
    ∃ entry ∈ catalog.entries, patch = .model { selectedModel := some entry.toSelectedModel } := by
  obtain ⟨hmade, hempty⟩ := of_ofProperties_eq_ok h
  cases isWritable_of_ofAnyProperties hmade with
  | model selectedModel hselected =>
    cases selectedModel with
    | none => cases hempty
    | some m =>
      obtain ⟨entry, hentry, rfl⟩ := hselected m rfl
      exact ⟨entry, hentry, rfl⟩

/-- Updates keep the settings of training nodes sound. -/
theorem hasSoundSettings_of_ofProperties (h : ofProperties kind properties catalog = .ok patch)
    (hdata : data.HasSoundSettings) (happly : patch.applyTo? data = some data') :
    data'.HasSoundSettings := by
  intro training htraining
  obtain rfl := htraining
  have hmade := (of_ofProperties_eq_ok h).1
  cases kind with
  | dataset | model =>
    -- Patches of other kinds give no data of a training node.
    cases isWritable_of_ofAnyProperties hmade
    have hkind := kind_of_applyTo? happly
    cases data <;> cases hkind
    cases happly
  | training =>
    obtain ⟨written, hwritten, rfl⟩ := map_eq_ok_iff.mp hmade
    have hkind := kind_of_applyTo? happly
    cases data <;> cases hkind
    rename_i before
    cases happly
    exact (TrainingPatch.isSound_of_ofProperties hwritten).apply (hdata before rfl)

/-- An update of a model node leaves it with a model. -/
theorem hasSelection_of_ofProperties (hcatalog : catalog.HasIds)
    (h : ofProperties .model properties catalog = .ok patch)
    (happly : patch.applyTo? data = some data') :
    ∃ model, data' = .model model ∧ model.HasSelection := by
  obtain ⟨entry, hentry, rfl⟩ := exists_entry_of_ofProperties h
  cases data with
  | model before =>
    simp only [applyTo?] at happly
    split at happly <;> cases happly
    exact ⟨_, rfl, entry.id, rfl, hcatalog entry hentry⟩
  | dataset | training => cases happly

end NodePatch

/-! ## Calls -/

namespace Engine

variable {engine : Engine} {c c' : Conversation Store} {request : ToolRequest}

theorem Executed.hasSoundSettings {result : ToolResult} (h : Executed engine c request result c')
    (hc : c.editor.graph.HasSoundSettings) : c'.editor.graph.HasSoundSettings := by
  cases h with
  | failed | alreadyConnected => exact hc
  | nodeUpdated request id patch hresolve hdone =>
    obtain ⟨-, node, hnode, -, hpatch⟩ := of_resolveUpdate_eq_ok hresolve
    obtain ⟨data, hdata, hgraph⟩ := Store.graph_edit_updateNode hnode hdone
    have hsound := NodePatch.hasSoundSettings_of_ofProperties hpatch
      (hc node (Graph.mem_of_node?_eq_some hnode).1) hdata
    intro after hafter
    rw [hgraph] at hafter
    obtain hafter | ⟨before, -, -, rfl⟩ := Graph.mem_of_mem_setFirst hafter
    · exact hc after hafter
    · exact hsound
  | nodeAdded request kind =>
    intro after hafter
    rcases List.mem_append.mp hafter with hafter | hafter
    · exact hc after hafter
    · rw [List.mem_singleton.mp hafter]
      exact NodeData.hasSoundSettings_initial kind
  | nodeDeleted request id hresolve hdone =>
    rw [Store.graph_edit_deleteNode hdone]
    exact fun after hafter => hc after (List.mem_of_mem_eraseP hafter)
  | connected request source target hresolve hnew hdone =>
    rw [ConnectRequest.edit, Store.graph_edit_connect hdone]
    exact hc
  | disconnected request reference hresolve hdone =>
    rw [Store.graph_edit_disconnect]
    exact hc

/-- Calls keep the settings of training nodes sound. -/
theorem hasSoundSettings_executeCall (c : Conversation Store) (call : ToolCall)
    (hc : c.editor.graph.HasSoundSettings) :
    (engine.executeCall c call).2.editor.graph.HasSoundSettings := by
  unfold executeCall
  split
  · exact (executed engine c _).hasSoundSettings hc
  · exact hc

section Selection

variable (hcatalog : engine.catalog.HasIds)
include hcatalog

/-- A model node has a model after every update of it. -/
theorem Executed.hasSelection_of_nodeUpdated {id : String}
    (h : Executed engine c request (.ok (.nodeUpdated id)) c')
    (hkind : c'.editor.graph.kindOf? id = some .model) : c'.editor.graph.HasSelection id := by
  cases h with
  | nodeUpdated request id patch hresolve hdone =>
    obtain ⟨-, node, hnode, -, hpatch⟩ := of_resolveUpdate_eq_ok hresolve
    obtain ⟨data, hdata, hgraph⟩ := Store.graph_edit_updateNode hnode hdone
    have hkept : node.kind = .model := by
      rw [hgraph, Graph.kindOf?_setData hnode (NodePatch.kind_of_applyTo? hdata), Graph.kindOf?,
        hnode] at hkind
      exact Option.some.inj hkind
    rw [hkept] at hpatch
    obtain ⟨model, rfl, hmodel⟩ := NodePatch.hasSelection_of_ofProperties hcatalog hpatch hdata
    refine ⟨{ node with data := .model model }, model, ?_, rfl, hmodel⟩
    rw [hgraph, Graph.node?_setData, hnode, Option.map_some,
      if_pos (Graph.mem_of_node?_eq_some hnode).2]

/-- A model node keeps having a model, unless it is deleted. -/
theorem Executed.hasSelection {result : ToolResult} {id : String}
    (h : Executed engine c request result c') (hc : c.editor.graph.HasSelection id)
    (hdeleted : result ≠ .ok (.nodeDeleted id)) : c'.editor.graph.HasSelection id := by
  obtain ⟨node, data, hnode, hdata, hselection⟩ := hc
  cases h with
  | failed | alreadyConnected => exact ⟨node, data, hnode, hdata, hselection⟩
  | nodeUpdated request updated patch hresolve hdone =>
    obtain ⟨-, target, htarget, -, -⟩ := of_resolveUpdate_eq_ok hresolve
    obtain ⟨written, hwritten, hgraph⟩ := Store.graph_edit_updateNode htarget hdone
    obtain rfl | hid := eq_or_ne updated id
    · refine hasSelection_of_nodeUpdated hcatalog (.nodeUpdated request _ patch hresolve hdone) ?_
      rw [hgraph, Graph.kindOf?_setData htarget (NodePatch.kind_of_applyTo? hwritten),
        Graph.kindOf?, hnode, Option.map_some, Node.kind, hdata]
      rfl
    · refine ⟨node, data, ?_, hdata, hselection⟩
      rw [hgraph, Graph.node?_setData, hnode, Option.map_some,
        if_neg fun h => hid (h.symm.trans (Graph.mem_of_node?_eq_some hnode).2)]
  | nodeAdded request kind =>
    have hid : id ∈ c.editor.graph.nodeIds :=
      Graph.hasNode_iff.mp (Option.isSome_of_eq_some hnode)
    exact ⟨node, data, (Graph.node?_append_node hid _).trans hnode, hdata, hselection⟩
  | nodeDeleted request deleted hresolve hdone =>
    have hid : id ≠ deleted := fun h => hdeleted (h ▸ rfl)
    rw [Store.graph_edit_deleteNode hdone]
    exact ⟨node, data, (Graph.node?_delete_node hid _).trans hnode, hdata, hselection⟩
  | connected request source target hresolve hnew hdone =>
    rw [ConnectRequest.edit, Store.graph_edit_connect hdone]
    exact ⟨node, data, hnode, hdata, hselection⟩
  | disconnected request reference hresolve hdone =>
    rw [Store.graph_edit_disconnect]
    exact ⟨node, data, hnode, hdata, hselection⟩

theorem hasSelection_executeCall {call : ToolCall} {id : String}
    (hc : c.editor.graph.HasSelection id)
    (hdeleted : (engine.executeCall c call).1 ≠ .ok (.nodeDeleted id)) :
    (engine.executeCall c call).2.editor.graph.HasSelection id := by
  unfold executeCall at hdeleted ⊢
  split
  · rename_i request hcall
    simp only [hcall] at hdeleted
    exact (executed engine c request).hasSelection hcatalog hc hdeleted
  · exact hc

/-- Calls leave a model node with a model, unless one of them deletes it. -/
theorem hasSelection_executeAll {calls : List ToolCall} {id : String}
    (hc : c.editor.graph.HasSelection id)
    (hdeleted : .nodeDeleted id ∉ outcomes (engine.executeAll c calls).1) :
    (engine.executeAll c calls).2.editor.graph.HasSelection id := by
  induction calls generalizing c with
  | nil => exact hc
  | cons call rest ih =>
    rw [outcomes_executeAll_cons, List.mem_append, not_or] at hdeleted
    obtain ⟨hcall, hrest⟩ := hdeleted
    refine ih (hasSelection_executeCall hcatalog hc fun h => hcall ?_) hrest
    rw [h]
    exact List.mem_singleton_self _

end Selection

/-! ## Turns -/

/-- **What assistants write compiles.** A turn, be it carried out call by call or as a whole, keeps
the settings of training nodes sound, so that compiling the graph at its end gives no error or
warning about settings. If all models of the catalog have an id, then a model node with a model
still has one after a turn that does not delete it, and every model node has one right after a call
that has updated it. -/
theorem turns_keep_settings (engine : Engine) (c : Conversation Store) (calls : List ToolCall)
    (after : Store)
    (hafter : after = (engine.runTurn c calls).2 ∨ after = (engine.runTurnAtomic c calls).2) :
    (c.editor.graph.HasSoundSettings →
      after.graph.HasSoundSettings ∧ ∀ context storagePrefix,
        (∀ errors, after.graph.compile context storagePrefix = .error ⟨errors⟩ →
          ∀ error ∈ errors, ¬error.IsAboutSettings) ∧
        (∀ job, after.graph.compile context storagePrefix = .ok job →
          ∀ warning ∈ job.warnings, ¬warning.IsAboutSettings)) ∧
    (engine.catalog.HasIds →
      (∀ id, c.editor.graph.HasSelection id →
        .nodeDeleted id ∉ outcomes (engine.executeAll c calls).1 → after.graph.HasSelection id) ∧
      (∀ (now : Conversation Store) (call : ToolCall) (id : String),
        (engine.executeCall now call).1 = .ok (.nodeUpdated id) →
        (engine.executeCall now call).2.editor.graph.kindOf? id = some .model →
        (engine.executeCall now call).2.editor.graph.HasSelection id)) := by
  refine ⟨fun hc => ?_, fun hcatalog => ⟨fun id hc hdeleted => ?_, fun now call id hdone hkind => ?_⟩⟩
  · have hsound : after.graph.HasSoundSettings := by
      rcases hafter with rfl | rfl
      · exact runTurn_keeps (P := fun s => s.graph.HasSoundSettings)
          hasSoundSettings_executeCall c calls hc
      · exact runTurnAtomic_keeps (P := fun s => s.graph.HasSoundSettings)
          hasSoundSettings_executeCall c calls hc
    exact ⟨hsound, fun context storagePrefix =>
      ⟨fun errors => Graph.not_isAboutSettings_of_compile_eq_error hsound,
        fun job => Graph.not_isAboutSettings_of_compile_eq_ok⟩⟩
  · have hturn : (engine.runTurn c calls).2.graph.HasSelection id :=
      hasSelection_executeAll hcatalog hc hdeleted
    rcases hafter with rfl | rfl
    · exact hturn
    · -- A turn that is undone leaves the model that was there before it.
      cases hsuccess : (engine.runTurn c calls).1.success with
      | true => rwa [runTurnAtomic_of_success hsuccess]
      | false => rwa [runTurnAtomic_of_failure hsuccess]
  · obtain ⟨request, updated, -, rfl, hexecuted⟩ := exists_executed_of_ok hdone
    exact hexecuted.hasSelection_of_nodeUpdated hcatalog hkind

/-- A turn that gives numbers as a text and as a float, quantizations in upper case and with blanks,
and a model by its name, and that tries a huge number of epochs. -/
theorem turns_keep_settings_lenient :
    let update : String → String → List (String × Json) → ToolCall := fun id kind properties =>
      ⟨"updateNodeProperties", .object [("nodeId", .string id), ("kind", .string kind),
        ("properties", .object properties)]⟩
    let engine := Engine.ofConfig ⟨[⟨"m/small", "Small", "", .zero, "", []⟩]⟩ .default
    let chosen : ModelData := { ModelData.initial with selectedModel := some ⟨"old", "", "", .zero⟩ }
    let c : Conversation Store :=
      ⟨⟨⟨[⟨"t", .origin, 1, .initial .training⟩, ⟨"m", .origin, 2, .model chosen⟩], []⟩, 3, 3⟩, []⟩
    let calls := [
      update "t" "training" [("epochs", .string " +03 "), ("batchSize", .ofDouble (.ofInt 4)),
        ("trainQuant", .string " INT8")],
      update "t" "training" [("epochs", .ofNat 18446744073709551617)],
      update "m" "model" [("model", .string "small")]]
    let after := (engine.runTurn c calls).2
    outcomes (engine.executeAll c calls).1 = [.nodeUpdated "t", .nodeUpdated "m"] ∧
      after.graph.HasSoundSettings ∧ after.graph.HasSelection "m" := by
  intro update engine chosen c calls after
  have houtcomes : outcomes (engine.executeAll c calls).1 =
      [.nodeUpdated "t", .nodeUpdated "m"] := by
    decide +kernel
  obtain ⟨hsettings, hselections⟩ := turns_keep_settings engine c calls after (.inl rfl)
  have hsound : c.editor.graph.HasSoundSettings := by
    refine List.forall_mem_cons.mpr ⟨NodeData.hasSoundSettings_initial .training, ?_⟩
    exact List.forall_mem_singleton.mpr nofun
  have hcatalog : engine.catalog.HasIds := List.forall_mem_singleton.mpr (by decide)
  have hselection : c.editor.graph.HasSelection "m" :=
    ⟨⟨"m", .origin, 2, .model chosen⟩, chosen, by decide, rfl, "old", rfl, by decide⟩
  refine ⟨houtcomes, (hsettings hsound).1, (hselections hcatalog).1 "m" hselection ?_⟩
  rw [houtcomes]
  decide

end Engine

end FineTuning
